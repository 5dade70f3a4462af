/-
The order of instants, and what a touch makes of one.

Instants are ordered by their seconds and then by the part of the second, and `latest` is
the larger of two.  A touch at some time moves an earlier instant to that time or to the
next microsecond, whichever is later, so it always moves forward, whatever the clock says
that shows the time of the touch.

How far a row of touches leads is a count of nanoseconds.  In a leap second the count is
not an order, since the second after it begins with the same count, so this is said of
instants outside leap seconds: there each touch counts on by at least a microsecond, and
each time of a touch counts on by a microsecond with every touch that follows.
-/
import Mathlib.Data.Prod.Lex
import Mathlib.Order.MinMax
import OrderDesk.Time.Instant

namespace OrderDesk.Instant

theorem parts_of_ofParts? {seconds : Int} {nanos : Nat} {t : Instant}
    (h : ofParts? seconds nanos = some t) : t.seconds = seconds ∧ t.nanos = nanos := by
  unfold ofParts? at h
  split at h
  · cases h
    exact ⟨rfl, rfl⟩
  · cases h

/-! ### The order -/

/-- What instants are ordered by. -/
def key (t : Instant) : ℤ ×ₗ ℕ := toLex (t.seconds, t.nanos)

theorem key_injective : Function.Injective key := by
  intro a b h
  cases a
  cases b
  simpa [key] using h

instance : LinearOrder Instant := LinearOrder.lift' key key_injective

theorem le_iff_parts {a b : Instant} :
    a ≤ b ↔ a.seconds < b.seconds ∨ (a.seconds = b.seconds ∧ a.nanos ≤ b.nanos) :=
  Prod.Lex.toLex_le_toLex

theorem lt_iff_parts {a b : Instant} :
    a < b ↔ a.seconds < b.seconds ∨ (a.seconds = b.seconds ∧ a.nanos < b.nanos) :=
  Prod.Lex.toLex_lt_toLex

theorem le_eq_true_iff {a b : Instant} : a.le b = true ↔ a ≤ b := by
  rw [le_iff_parts]
  simp [le]

theorem latest_eq_max (a b : Instant) : a.latest b = max a b := by
  unfold latest
  by_cases h : a ≤ b
  · rw [if_pos (le_eq_true_iff.mpr h), max_eq_right h]
  · rw [if_neg (fun hle => h (le_eq_true_iff.mp hle)), max_eq_left (not_le.mp h).le]

/-! ### The next microsecond -/

/-- The parts of the next microsecond, in a leap second and outside of one. -/
theorem parts_of_nextMicrosecond? {t next : Instant} (h : t.nextMicrosecond? = some next) :
    (1000000000 ≤ t.nanos ∧ next.seconds = t.seconds ∧ next.nanos = t.nanos + 1000) ∨
    (t.nanos + 1000 < 1000000000 ∧ next.seconds = t.seconds ∧ next.nanos = t.nanos + 1000) ∨
    (1000000000 ≤ t.nanos % 1000000000 + 1000 ∧ next.seconds = t.seconds + 1 ∧
      next.nanos = t.nanos % 1000000000 + 1000 - 1000000000) := by
  have hvalid := t.valid.2.2
  unfold nextMicrosecond? after? at h
  unfold nanosPerSecond at hvalid h
  by_cases hleap : t.isLeap = true
  · have hle : 1000000000 ≤ t.nanos := of_decide_eq_true hleap
    by_cases hin : t.nanos + 1000 < 2000000000
    · rw [if_pos ⟨hleap, rfl, hin⟩] at h
      obtain ⟨hs, hn⟩ := parts_of_ofParts? h
      exact Or.inl ⟨hle, hs, hn⟩
    · rw [if_neg (fun hc => hin hc.2.2)] at h
      obtain ⟨hs, hn⟩ := parts_of_ofParts? h
      rw [if_pos hleap] at hs hn
      refine Or.inr (Or.inr ⟨?_, ?_, ?_⟩) <;> omega
  · have hlt : t.nanos < 1000000000 :=
      Nat.lt_of_not_le fun hle => hleap (decide_eq_true hle)
    rw [if_neg (fun hc => hleap hc.1)] at h
    obtain ⟨hs, hn⟩ := parts_of_ofParts? h
    rw [if_neg hleap] at hs hn
    by_cases hin : t.nanos + 1000 < 1000000000
    · refine Or.inr (Or.inl ⟨hin, ?_, ?_⟩) <;> omega
    · refine Or.inr (Or.inr ⟨?_, ?_, ?_⟩) <;> omega

/-- The next microsecond is later, also at the end of a leap second. -/
theorem lt_nextMicrosecond {t next : Instant} (h : t.nextMicrosecond? = some next) :
    t < next := by
  rw [lt_iff_parts]
  rcases parts_of_nextMicrosecond? h with ⟨-, hs, hn⟩ | ⟨-, hs, hn⟩ | ⟨-, hs, -⟩
  · exact Or.inr ⟨hs.symm, by omega⟩
  · exact Or.inr ⟨hs.symm, by omega⟩
  · exact Or.inl (by omega)

/-- The instant lies in the last microsecond that there is, or in the last of the leap second at
the end of time. -/
def IsLast (t : Instant) : Prop :=
  t.seconds = maxSecond ∧ nanosPerSecond ≤ t.nanos % nanosPerSecond + 1000

instance (t : Instant) : Decidable t.IsLast := by
  unfold IsLast
  infer_instance

theorem ofParts?_eq_none_iff {seconds : Int} {nanos : Nat} :
    ofParts? seconds nanos = none ↔ ¬Valid seconds nanos := by
  unfold ofParts?
  by_cases h : Valid seconds nanos
  · simp [h]
  · simp [h]

/-- Every instant has a next microsecond but those in the last one. -/
theorem nextMicrosecond?_eq_none_iff {t : Instant} : t.nextMicrosecond? = none ↔ t.IsLast := by
  obtain ⟨hmin, hmax, hnanos⟩ := t.valid
  unfold nextMicrosecond? after? IsLast isLeap
  unfold nanosPerSecond maxSecond at *
  by_cases hleap : 1000000000 ≤ t.nanos
  · by_cases hin : t.nanos + 1000 < 2000000000
    · -- what ends within the leap second is as valid as what it started from
      rw [if_pos (by simp [hleap, hin]), ofParts?_eq_none_iff, Valid, nanosPerSecond, maxSecond]
      omega
    · rw [if_neg (by simp [hin]), ofParts?_eq_none_iff, Valid, nanosPerSecond, maxSecond]
      simp only [hleap, decide_true, if_true]
      omega
  · rw [if_neg (by simp [hleap]), ofParts?_eq_none_iff, Valid, nanosPerSecond, maxSecond]
    simp only [hleap, decide_false, Bool.false_eq_true, if_false]
    omega

/-! ### Counting nanoseconds -/

/-- The nanoseconds since the beginning of 1970. -/
def total (t : Instant) : Int := t.seconds * 1000000000 + t.nanos

theorem nanos_lt {t : Instant} (h : t.isLeap = false) : t.nanos < 1000000000 :=
  Nat.lt_of_not_le (of_decide_eq_false h)

theorem isLeap_eq_false_of_lt {t : Instant} (h : t.nanos < 1000000000) : t.isLeap = false :=
  decide_eq_false (Nat.not_le_of_lt h)

theorem total_le_total {a b : Instant} (ha : a.isLeap = false) (hb : b.isLeap = false) :
    a.total ≤ b.total ↔ a ≤ b := by
  have hna := nanos_lt ha
  have hnb := nanos_lt hb
  rw [le_iff_parts]
  unfold total
  omega

theorem total_nextMicrosecond {t next : Instant} (ht : t.isLeap = false)
    (h : t.nextMicrosecond? = some next) :
    next.isLeap = false ∧ next.total = t.total + 1000 := by
  have hlt := nanos_lt ht
  unfold total
  rcases parts_of_nextMicrosecond? h with ⟨hle, -⟩ | ⟨hin, hs, hn⟩ | ⟨hout, hs, hn⟩
  · omega
  · exact ⟨isLeap_eq_false_of_lt (by omega), by omega⟩
  · exact ⟨isLeap_eq_false_of_lt (by omega), by omega⟩

theorem total_latest {a b : Instant} (ha : a.isLeap = false) (hb : b.isLeap = false) :
    (a.latest b).isLeap = false ∧ (a.latest b).total = max a.total b.total := by
  rw [latest_eq_max]
  by_cases h : a ≤ b
  · rw [max_eq_right h, max_eq_right ((total_le_total ha hb).mpr h)]
    exact ⟨hb, rfl⟩
  · have hba : b ≤ a := (not_le.mp h).le
    rw [max_eq_left hba, max_eq_left ((total_le_total hb ha).mpr hba)]
    exact ⟨ha, rfl⟩

/-! ### Touches -/

/-- What a touch at the time `touched` makes of an instant; nothing when the instant has no next
microsecond. -/
def touch? (last touched : Instant) : Option Instant :=
  last.nextMicrosecond?.map touched.latest

theorem lt_touch {last touched t : Instant} (h : last.touch? touched = some t) :
    last < t ∧ touched ≤ t := by
  obtain ⟨next, hnext, rfl⟩ := Option.map_eq_some_iff.mp h
  rw [latest_eq_max]
  exact ⟨lt_max_of_lt_right (lt_nextMicrosecond hnext), le_max_left touched next⟩

theorem total_touch {last touched t : Instant} (hlast : last.isLeap = false)
    (htouched : touched.isLeap = false) (h : last.touch? touched = some t) :
    t.isLeap = false ∧ t.total = max touched.total (last.total + 1000) := by
  obtain ⟨next, hnext, rfl⟩ := Option.map_eq_some_iff.mp h
  obtain ⟨hleap, htotal⟩ := total_nextMicrosecond hlast hnext
  obtain ⟨hleap', htotal'⟩ := total_latest htouched hleap
  exact ⟨hleap', by rw [htotal', htotal]⟩

theorem le_foldlM_touch {times : List Instant} {first last : Instant}
    (h : times.foldlM touch? first = some last) : first ≤ last := by
  induction times generalizing first with
  | nil => exact le_of_eq (Option.some.inj h)
  | cons touched rest ih =>
      rw [List.foldlM_cons] at h
      obtain ⟨t, ht, hrest⟩ := Option.bind_eq_some_iff.mp h
      exact (lt_touch ht).1.le.trans (ih hrest)

/-- How far touches at these times lead: the first instant counts on by a microsecond with every
touch, and the time of each touch with every touch after it. -/
theorem total_foldlM_touch {times : List Instant} {first last : Instant}
    (hfirst : first.isLeap = false) (htimes : ∀ t ∈ times, t.isLeap = false)
    (h : times.foldlM touch? first = some last) :
    ((first.total + 1000 * (times.length : Int)) ::
        times.mapIdx fun (i : Nat) (t : Instant) =>
          t.total + 1000 * ((times.length - (i + 1) : Nat) : Int)).max? = some last.total := by
  induction times generalizing first with
  | nil =>
      obtain rfl := Option.some.inj h
      simp
  | cons touched rest ih =>
      rw [List.foldlM_cons] at h
      obtain ⟨t, ht, hrest⟩ := Option.bind_eq_some_iff.mp h
      obtain ⟨hleap, htotal⟩ := total_touch hfirst (htimes touched (List.mem_cons_self ..)) ht
      have hrec := ih hleap (fun t ht => htimes t (List.mem_cons_of_mem _ ht)) hrest
      -- the first two candidates count on to one, which is the first candidate of the rest
      have hmerge : max (first.total + 1000 * ((touched :: rest).length : Int))
          (touched.total + 1000 * (((touched :: rest).length - (0 + 1) : Nat) : Int)) =
          t.total + 1000 * (rest.length : Int) := by
        rw [htotal, List.length_cons, Nat.zero_add, Nat.add_sub_cancel]
        push_cast
        omega
      have hshift : (rest.mapIdx fun (i : Nat) (t : Instant) =>
          t.total + 1000 * (((touched :: rest).length - (i + 1 + 1) : Nat) : Int)) =
          rest.mapIdx fun (i : Nat) (t : Instant) =>
            t.total + 1000 * ((rest.length - (i + 1) : Nat) : Int) := by
        simp only [List.length_cons, Nat.add_sub_add_right]
      rw [List.mapIdx_cons, hshift, List.max?_cons', List.foldl_cons, hmerge]
      rwa [List.max?_cons'] at hrec

end OrderDesk.Instant
