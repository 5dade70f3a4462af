/-
What a JSON value is.

The readers step over a value with a machine that knows what is open and what may come
next.  Here it is said without a machine which lexemes make up a value, and the machine
is shown to stop only at the end of one.

What the machine still has to read is described by `Goes`, backwards from where it stops:
first the rest of the innermost value, then what `Closing` says of the frames around it.
A step of the machine adds one lexeme in front, which is one case of `Goes.step`.
-/
import OrderDesk.Json.Reader

namespace OrderDesk.Json

/-! ### Values -/

/-- A name, a colon and a value. -/
def memberLexemes (name : Option String) (value : List Lexeme) : List Lexeme :=
  .text name :: .colon :: value

/-- The lexemes of an array with these elements. -/
def arrayLexemes (elements : List (List Lexeme)) : List Lexeme :=
  .openBracket :: [Lexeme.comma].intercalate elements ++ [.closeBracket]

/-- The lexemes of an object with these members. -/
def objectLexemes (members : List (Option String × List Lexeme)) : List Lexeme :=
  .openBrace :: [Lexeme.comma].intercalate (members.map fun m => memberLexemes m.1 m.2) ++
    [.closeBrace]

/-- Lexemes that make up one value. -/
inductive IsValue : List Lexeme → Prop where
  | null : IsValue [.null]
  | bool (b : Bool) : IsValue [.bool b]
  | number (n : Number) : IsValue [.number n]
  | text (s : Option String) : IsValue [.text s]
  | array (elements : List (List Lexeme)) (h : ∀ v ∈ elements, IsValue v) :
      IsValue (arrayLexemes elements)
  | object (members : List (Option String × List Lexeme)) (h : ∀ m ∈ members, IsValue m.2) :
      IsValue (objectLexemes members)

theorem intercalate_cons {α : Type} (sep : α) (x : List α) (xs : List (List α)) :
    [sep].intercalate (x :: xs) = x ++ xs.flatMap fun y => sep :: y := by
  induction xs generalizing x with
  | nil => simp [List.intercalate]
  | cons y ys ih =>
      rw [List.intercalate_cons_cons, ih y]
      simp

/-! ### Where the machine stops -/

/-- What may follow a value inside these frames, innermost first, up to the end of the
outermost. -/
inductive Closing : List Frame → List Lexeme → Prop where
  | nothing : Closing [] []
  | array {frames : List Frame} {rest : List Lexeme} (elements : List (List Lexeme))
      (h : ∀ v ∈ elements, IsValue v) (hrest : Closing frames rest) :
      Closing (.array :: frames)
        ((elements.flatMap fun v => .comma :: v) ++ .closeBracket :: rest)
  | object {frames : List Frame} {rest : List Lexeme}
      (members : List (Option String × List Lexeme)) (h : ∀ m ∈ members, IsValue m.2)
      (hrest : Closing frames rest) :
      Closing (.object :: frames)
        ((members.flatMap fun m => .comma :: memberLexemes m.1 m.2) ++ .closeBrace :: rest)

/-- A value, and what may follow it inside these frames. -/
def Continues (frames : List Frame) (ls : List Lexeme) : Prop :=
  ∃ v rest, ls = v ++ rest ∧ IsValue v ∧ Closing frames rest

/-- A colon and what follows it. -/
def ColonContinues (frames : List Frame) (ls : List Lexeme) : Prop :=
  ∃ rest, ls = .colon :: rest ∧ Continues frames rest

/-- A name and what follows it. -/
def NameContinues (frames : List Frame) (ls : List Lexeme) : Prop :=
  ∃ name rest, ls = .text name :: rest ∧ ColonContinues frames rest

/-- What the machine reads from a spot to the end of the outermost frame. -/
def Goes (frames : List Frame) (ls : List Lexeme) : Spot → Prop
  | .value => Continues frames ls
  | .valueOrClose =>
    Continues frames ls ∨ ∃ rest, ls = .closeBracket :: rest ∧ Closing (frames.drop 1) rest
  | .key => NameContinues frames ls
  | .keyOrClose =>
    NameContinues frames ls ∨ ∃ rest, ls = .closeBrace :: rest ∧ Closing (frames.drop 1) rest
  | .colon => ColonContinues frames ls
  | .after => Closing frames ls

/-! ### One step -/

theorem continues_single {frames : List Frame} {ls : List Lexeme} {l : Lexeme}
    (hl : IsValue [l]) (h : Closing frames ls) : Continues frames (l :: ls) :=
  ⟨[l], ls, rfl, hl, h⟩

theorem continues_array {frames : List Frame} {ls : List Lexeme}
    (h : Goes (.array :: frames) ls .valueOrClose) : Continues frames (.openBracket :: ls) := by
  rcases h with ⟨v, rest, rfl, hv, hrest⟩ | ⟨rest, rfl, hrest⟩
  · cases hrest with
    | array elements helements hclosing =>
        refine ⟨arrayLexemes (v :: elements), _, ?_, .array _ ?_, hclosing⟩
        · simp [arrayLexemes, intercalate_cons]
        · simpa using ⟨hv, helements⟩
  · exact ⟨arrayLexemes [], rest, rfl, .array [] (by simp), hrest⟩

theorem continues_object {frames : List Frame} {ls : List Lexeme}
    (h : Goes (.object :: frames) ls .keyOrClose) : Continues frames (.openBrace :: ls) := by
  rcases h with ⟨name, _, rfl, _, rfl, v, rest, rfl, hv, hrest⟩ | ⟨rest, rfl, hrest⟩
  · cases hrest with
    | object members hmembers hclosing =>
        refine ⟨objectLexemes ((name, v) :: members), _, ?_, .object _ ?_, hclosing⟩
        · simp [objectLexemes, intercalate_cons, memberLexemes, List.flatMap_map]
        · intro m hm
          rcases List.mem_cons.mp hm with rfl | hm
          · exact hv
          · exact hmembers m hm
  · exact ⟨objectLexemes [], rest, rfl, .object [] (by simp), hrest⟩

theorem closing_element {frames : List Frame} {ls : List Lexeme}
    (h : Continues (.array :: frames) ls) : Closing (.array :: frames) (.comma :: ls) := by
  obtain ⟨v, rest, rfl, hv, hrest⟩ := h
  cases hrest with
  | array elements helements hclosing =>
      have hall : ∀ e ∈ v :: elements, IsValue e := by simpa using ⟨hv, helements⟩
      simpa using Closing.array (v :: elements) hall hclosing

theorem closing_member {frames : List Frame} {ls : List Lexeme}
    (h : NameContinues (.object :: frames) ls) : Closing (.object :: frames) (.comma :: ls) := by
  obtain ⟨name, _, rfl, _, rfl, v, rest, rfl, hv, hrest⟩ := h
  cases hrest with
  | object members hmembers hclosing =>
      have hall : ∀ m ∈ (name, v) :: members, IsValue m.2 := by
        intro m hm
        rcases List.mem_cons.mp hm with rfl | hm
        · exact hv
        · exact hmembers m hm
      simpa [memberLexemes] using Closing.object ((name, v) :: members) hall hclosing

section Step

variable {spot : Spot} {frames frames' : List Frame} {l : Lexeme} {ls : List Lexeme}

theorem continues_step (hstep : Spot.next .value frames l = some (spot, frames'))
    (h : Goes frames' ls spot) : Continues frames (l :: ls) := by
  cases l with
  | null =>
      cases hstep
      exact continues_single .null h
  | bool b =>
      cases hstep
      exact continues_single (.bool b) h
  | number n =>
      cases hstep
      exact continues_single (.number n) h
  | text s =>
      cases hstep
      exact continues_single (.text s) h
  | openBracket =>
      cases hstep
      exact continues_array h
  | openBrace =>
      cases hstep
      exact continues_object h
  | closeBrace | closeBracket | colon | comma | stray => cases hstep

theorem nameContinues_step (hstep : Spot.next .key frames l = some (spot, frames'))
    (h : Goes frames' ls spot) : NameContinues frames (l :: ls) := by
  cases l with
  | text name =>
      cases hstep
      exact ⟨name, ls, rfl, h⟩
  | _ => cases hstep

theorem closing_step (hstep : Spot.next .after frames l = some (spot, frames'))
    (h : Goes frames' ls spot) : Closing frames (l :: ls) := by
  cases frames with
  | nil => cases l <;> simp [Spot.next] at hstep
  | cons frame outer =>
      cases frame with
      | array =>
          cases l with
          | comma =>
              cases hstep
              exact closing_element h
          | closeBracket =>
              cases hstep
              exact .array [] (by simp) h
          | _ => simp [Spot.next] at hstep
      | object =>
          cases l with
          | comma =>
              cases hstep
              exact closing_member h
          | closeBrace =>
              cases hstep
              exact .object [] (by simp) h
          | _ => simp [Spot.next] at hstep

/-- **A step of the machine puts one lexeme in front of what is left to read.** -/
theorem Goes.step {start : Spot} (hstep : start.next frames l = some (spot, frames'))
    (h : Goes frames' ls spot) : Goes frames (l :: ls) start := by
  cases start with
  | value => exact continues_step hstep h
  | key => exact nameContinues_step hstep h
  | after => exact closing_step hstep h
  | valueOrClose =>
      by_cases hl : l = .closeBracket
      · subst hl
        cases hstep
        exact Or.inr ⟨ls, rfl, h⟩
      · refine Or.inl (continues_step ?_ h)
        cases l <;> first | exact hstep | exact absurd rfl hl
  | keyOrClose =>
      by_cases hl : l = .closeBrace
      · subst hl
        cases hstep
        exact Or.inr ⟨ls, rfl, h⟩
      · refine Or.inl (nameContinues_step ?_ h)
        cases l <;> first | exact hstep | exact absurd rfl hl
  | colon =>
      cases l with
      | colon =>
          cases hstep
          exact ⟨ls, rfl, h⟩
      | _ => cases hstep

end Step

/-! ### The whole way -/

theorem goes_of_valueLengthFrom {spot : Spot} {frames : List Frame} {n m : Nat}
    {ls : List Lexeme} (h : valueLengthFrom spot frames n ls = some m) :
    ∃ read rest, ls = read ++ rest ∧ m = n + read.length ∧ Goes frames read spot := by
  induction ls generalizing spot frames n with
  | nil => cases h
  | cons l rest ih =>
      rw [valueLengthFrom] at h
      split at h
      · cases h
      · next spot' frames' hstep =>
        split at h
        · next hend =>
          obtain ⟨rfl, rfl⟩ := hend
          cases h
          exact ⟨[l], rest, rfl, rfl, Goes.step hstep Closing.nothing⟩
        · obtain ⟨read, left, rfl, rfl, hgoes⟩ := ih h
          refine ⟨l :: read, left, rfl, ?_, Goes.step hstep hgoes⟩
          simp only [List.length_cons]
          omega

/-- **What is stepped over is a value.** -/
theorem isValue_of_valueLength? {ls : List Lexeme} {n : Nat} (h : valueLength? ls = some n) :
    ∃ v, ls = v ++ ls.drop n ∧ IsValue v := by
  obtain ⟨read, rest, rfl, hlength, v, left, rfl, hv, hleft⟩ := goes_of_valueLengthFrom h
  cases hleft
  refine ⟨v, ?_, hv⟩
  simp [hlength]

/-! ### Values are stepped over whole -/

/-- What the machine finds when it comes to the end of a value. -/
def arrive (frames : List Frame) (n : Nat) (rest : List Lexeme) : Option Nat :=
  if frames = [] then some n else valueLengthFrom .after frames n rest

/-- The machine steps over these lexemes, where a value may begin. -/
def SteppedOver (v : List Lexeme) : Prop :=
  ∀ frames n rest,
    valueLengthFrom .value frames n (v ++ rest) = arrive frames (n + v.length) rest ∧
      valueLengthFrom .valueOrClose frames n (v ++ rest) = arrive frames (n + v.length) rest

theorem valueLengthFrom_cons {spot : Spot} (spot' : Spot) {frames frames' : List Frame}
    {l : Lexeme} (h : spot.next frames l = some (spot', frames')) (hon : spot' ≠ .after) (n : Nat)
    (rest : List Lexeme) :
    valueLengthFrom spot frames n (l :: rest) = valueLengthFrom spot' frames' (n + 1) rest := by
  simp [valueLengthFrom, h, hon]

theorem valueLengthFrom_end {spot : Spot} {frames frames' : List Frame} {l : Lexeme}
    (h : spot.next frames l = some (.after, frames')) (n : Nat) (rest : List Lexeme) :
    valueLengthFrom spot frames n (l :: rest) = arrive frames' (n + 1) rest := by
  simp [valueLengthFrom, h, arrive]

theorem arrive_array {elements : List (List Lexeme)} (h : ∀ v ∈ elements, SteppedOver v)
    (frames : List Frame) (n : Nat) (rest : List Lexeme) :
    arrive (.array :: frames) n
        ((elements.flatMap fun v => .comma :: v) ++ .closeBracket :: rest) =
      arrive frames (n + (elements.flatMap fun v => Lexeme.comma :: v).length + 1) rest := by
  induction elements generalizing n with
  | nil =>
      rw [arrive, if_neg (by simp)]
      exact valueLengthFrom_end rfl n rest
  | cons v others ih =>
      obtain ⟨hv, hothers⟩ := List.forall_mem_cons.mp h
      rw [arrive, if_neg (by simp), List.flatMap_cons, List.cons_append, List.cons_append,
        List.append_assoc, valueLengthFrom_cons .value rfl (by simp), (hv _ _ _).1, ih hothers]
      congr 1
      simp only [List.length_cons, List.length_append]
      omega

theorem valueLengthFrom_member {v : List Lexeme} (h : SteppedOver v) {spot : Spot}
    (hspot : spot = .key ∨ spot = .keyOrClose) (name : Option String) (frames : List Frame)
    (n : Nat) (rest : List Lexeme) :
    valueLengthFrom spot frames n (memberLexemes name v ++ rest) =
      arrive frames (n + (memberLexemes name v).length) rest := by
  have hname : spot.next frames (.text name) = some (.colon, frames) := by
    rcases hspot with rfl | rfl <;> rfl
  rw [memberLexemes, List.cons_append, List.cons_append,
    valueLengthFrom_cons .colon hname (by simp), valueLengthFrom_cons .value rfl (by simp),
    (h _ _ _).1]
  congr 1
  simp only [List.length_cons]
  omega

theorem arrive_object {members : List (Option String × List Lexeme)}
    (h : ∀ m ∈ members, SteppedOver m.2) (frames : List Frame) (n : Nat) (rest : List Lexeme) :
    arrive (.object :: frames) n
        ((members.flatMap fun m => .comma :: memberLexemes m.1 m.2) ++ .closeBrace :: rest) =
      arrive frames
        (n + (members.flatMap fun m => Lexeme.comma :: memberLexemes m.1 m.2).length + 1)
        rest := by
  induction members generalizing n with
  | nil =>
      rw [arrive, if_neg (by simp)]
      exact valueLengthFrom_end rfl n rest
  | cons m others ih =>
      obtain ⟨hm, hothers⟩ := List.forall_mem_cons.mp h
      rw [arrive, if_neg (by simp), List.flatMap_cons, List.cons_append, List.cons_append,
        List.append_assoc, valueLengthFrom_cons .key rfl (by simp),
        valueLengthFrom_member hm (Or.inl rfl), ih hothers]
      congr 1
      simp only [List.length_cons, List.length_append]
      omega

theorem steppedOver_array {elements : List (List Lexeme)}
    (h : ∀ v ∈ elements, SteppedOver v) : SteppedOver (arrayLexemes elements) := by
  have hbody : ∀ frames n rest,
      valueLengthFrom .valueOrClose (.array :: frames) (n + 1)
          ([Lexeme.comma].intercalate elements ++ .closeBracket :: rest) =
        arrive frames (n + (arrayLexemes elements).length) rest := by
    intro frames n rest
    cases elements with
    | nil => exact valueLengthFrom_end rfl (n + 1) rest
    | cons v others =>
        obtain ⟨hv, hothers⟩ := List.forall_mem_cons.mp h
        rw [intercalate_cons, List.append_assoc, (hv _ _ _).2, arrive_array hothers]
        congr 1
        simp only [arrayLexemes, intercalate_cons, List.length_cons, List.length_append,
          List.length_nil]
        omega
  intro frames n rest
  rw [← hbody, arrayLexemes, List.cons_append, List.cons_append, List.append_assoc]
  exact ⟨valueLengthFrom_cons _ rfl (by simp) n _, valueLengthFrom_cons _ rfl (by simp) n _⟩

theorem steppedOver_object {members : List (Option String × List Lexeme)}
    (h : ∀ m ∈ members, SteppedOver m.2) : SteppedOver (objectLexemes members) := by
  have hbody : ∀ frames n rest,
      valueLengthFrom .keyOrClose (.object :: frames) (n + 1)
          ([Lexeme.comma].intercalate (members.map fun m => memberLexemes m.1 m.2) ++
            .closeBrace :: rest) =
        arrive frames (n + (objectLexemes members).length) rest := by
    intro frames n rest
    cases members with
    | nil => exact valueLengthFrom_end rfl (n + 1) rest
    | cons m others =>
        obtain ⟨hm, hothers⟩ := List.forall_mem_cons.mp h
        rw [List.map_cons, intercalate_cons, List.flatMap_map, List.append_assoc,
          valueLengthFrom_member hm (Or.inr rfl), arrive_object hothers]
        congr 1
        simp only [objectLexemes, List.map_cons, intercalate_cons, List.flatMap_map,
          List.length_cons, List.length_append, List.length_nil]
        omega
  intro frames n rest
  rw [← hbody, objectLexemes, List.cons_append, List.cons_append, List.append_assoc]
  exact ⟨valueLengthFrom_cons _ rfl (by simp) n _, valueLengthFrom_cons _ rfl (by simp) n _⟩

theorem steppedOver_single {l : Lexeme}
    (hvalue : ∀ frames, Spot.next .value frames l = some (.after, frames))
    (hopen : ∀ frames, Spot.next .valueOrClose frames l = some (.after, frames)) :
    SteppedOver [l] := by
  intro frames n rest
  exact ⟨valueLengthFrom_end (hvalue frames) n rest, valueLengthFrom_end (hopen frames) n rest⟩

theorem IsValue.steppedOver {v : List Lexeme} (h : IsValue v) : SteppedOver v := by
  induction h with
  | null => exact steppedOver_single (fun _ => rfl) (fun _ => rfl)
  | bool b => exact steppedOver_single (fun _ => rfl) (fun _ => rfl)
  | number n => exact steppedOver_single (fun _ => rfl) (fun _ => rfl)
  | text s => exact steppedOver_single (fun _ => rfl) (fun _ => rfl)
  | array elements _ ih => exact steppedOver_array ih
  | object members _ ih => exact steppedOver_object ih

/-- **A value is stepped over, whatever stands behind it.** -/
theorem IsValue.valueLength?_append {v : List Lexeme} (h : IsValue v) (rest : List Lexeme) :
    valueLength? (v ++ rest) = some v.length := by
  rw [valueLength?, (h.steppedOver [] 0 rest).1, arrive, if_pos rfl, Nat.zero_add]

/-- No value is the beginning of another. -/
theorem IsValue.unique {v w behind rest : List Lexeme} (hv : IsValue v) (hw : IsValue w)
    (h : v ++ behind = w ++ rest) : v = w := by
  have hlength : v.length = w.length := by
    have hvl := hv.valueLength?_append behind
    rw [h, hw.valueLength?_append rest] at hvl
    exact (Option.some.inj hvl).symm
  exact List.append_inj_left h hlength

end OrderDesk.Json
