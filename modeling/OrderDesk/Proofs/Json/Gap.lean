/-
An object with a gap.

Two texts that are the same but for the value of one member are one text with a gap, filled in
two ways.  What can be said of how such a text is read follows the way through it: what stands
in front of the gap is read alike whatever fills it, then the value is read, and what stands
behind it is read alike again, because the reader has kept nothing of the value that anything
behind it depends on.  So the value makes a difference only through its own verdict.
-/
import OrderDesk.Proofs.Json.Joined
import OrderDesk.Proofs.Json.Records

namespace OrderDesk.Json

/-! ### What is kept of what was read -/

/-- What is wrong with something, if it was refused. -/
def refusal? {α : Type} : Except Refusal α → Option Refusal
  | .ok _ => none
  | .error e => some e

theorem refusal?_eq_some {α : Type} {x : Except Refusal α} {e : Refusal} :
    refusal? x = some e ↔ x = .error e := by
  cases x <;> simp [refusal?]

theorem refusal?_map {α β : Type} (f : α → β) (x : Except Refusal α) :
    refusal? (x.map f) = refusal? x := by
  cases x <;> rfl

variable {α : Type} {r : Record} {read : String → Reader α}

/-- The same fields have been read, whatever was read of them. -/
def SameNames (seen seen' : Members α) : Prop := seen.map Prod.fst = seen'.map Prod.fst

theorem SameNames.cons {seen seen' : Members α} (h : SameNames seen seen') (name : String)
    (a b : α) : SameNames ((name, a) :: seen) ((name, b) :: seen') :=
  congrArg (name :: ·) h

/-- The same fields are there. -/
theorem SameNames.lookup {seen seen' : Members α} (h : SameNames seen seen') (name : String) :
    (seen.lookup name).isSome = (seen'.lookup name).isSome := by
  induction seen generalizing seen' with
  | nil =>
      rw [List.map_eq_nil_iff.mp h.symm]
  | cons m rest ih =>
      cases seen' with
      | nil => cases h
      | cons m' rest' =>
          have hname : m.1 = m'.1 := (List.cons.inj h).1
          have hrest : SameNames rest rest' := (List.cons.inj h).2
          obtain ⟨n, a⟩ := m
          obtain ⟨n', b⟩ := m'
          obtain rfl : n = n' := hname
          by_cases hn : (name == n) = true
          · simp [List.lookup_cons, hn]
          · simp [List.lookup_cons, hn, ih hrest]

/-- Two objects are read alike: they are refused for the same reason, or the same fields are read
and the same stands behind. -/
inductive Alike :
    Except Refusal (Members α × List Lexeme) → Except Refusal (Members α × List Lexeme) → Prop
  | refused (e : Refusal) : Alike (.error e) (.error e)
  | read {seen seen' : Members α} (h : SameNames seen seen') (rest : List Lexeme) :
      Alike (.ok (seen, rest)) (.ok (seen', rest))

theorem readMembers_duplicate {seen : Members α} {name : String} (behind : List Lexeme)
    (h : r.has name = true ∧ (seen.lookup name).isSome = true) :
    readMembers r read seen (.text (some name) :: behind) =
      .error (.mismatch [] (.duplicateField name)) := by
  unfold readMembers
  exact if_pos h

theorem readMembers_of_noValue {seen : Members α} {name : String} {behind : List Lexeme}
    (hnew : ¬(r.has name = true ∧ (seen.lookup name).isSome = true))
    (h : ¬∃ value, behind = .colon :: value) :
    readMembers r read seen (.text (some name) :: behind) = .error .malformed := by
  unfold readMembers
  simp only [if_neg hnew]
  split
  · next value => exact absurd ⟨value, rfl⟩ h
  · rfl

theorem readMembers_of_noName {seen : Members α} {ls : List Lexeme}
    (h : ¬∃ name behind, ls = .text (some name) :: behind) :
    readMembers r read seen ls = .error .malformed := by
  unfold readMembers
  split
  · next name behind => exact absurd ⟨name, behind, rfl⟩ h
  · rfl

/-- The field after the same value is refused alike, or read alike. -/
theorem addMember_alike {seen seen' : Members α} (h : SameNames seen seen') (name : String)
    (value : List Lexeme) :
    (∃ e, addMember r read seen name value = .error e ∧
        addMember r read seen' name value = .error e) ∨
      ∃ next next', addMember r read seen name value = .ok next ∧
        addMember r read seen' name value = .ok next' ∧ SameNames next next' := by
  unfold addMember
  by_cases hhas : r.has name = true
  · simp only [if_pos hhas]
    cases read name value with
    | error e => exact Or.inl ⟨_, rfl, rfl⟩
    | ok a => exact Or.inr ⟨_, _, rfl, rfl, h.cons name a a⟩
  · simp only [if_neg hhas]
    exact Or.inr ⟨_, _, rfl, rfl, h⟩

/-- Nothing that is read depends on what was read before, but for the names. -/
theorem readMembers_alike {seen seen' : Members α} (h : SameNames seen seen') (ls : List Lexeme) :
    Alike (readMembers r read seen ls) (readMembers r read seen' ls) := by
  induction hn : ls.length using Nat.strongRecOn generalizing ls seen seen' with
  | ind n ih =>
      by_cases hname : ∃ name behind, ls = .text (some name) :: behind
      · obtain ⟨name, behind, rfl⟩ := hname
        by_cases hdup : r.has name = true ∧ (seen.lookup name).isSome = true
        · rw [readMembers_duplicate _ hdup, readMembers_duplicate _ (h.lookup name ▸ hdup)]
          exact .refused _
        have hdup' : ¬(r.has name = true ∧ (seen'.lookup name).isSome = true) :=
          h.lookup name ▸ hdup
        by_cases hvalue : ∃ value, behind = .colon :: value
        · obtain ⟨value, rfl⟩ := hvalue
          rw [readMembers_cons value hdup, readMembers_cons value hdup']
          rcases @addMember_alike α r read seen seen' h name value with
            ⟨e, hleft, hright⟩ | ⟨next, next', hleft, hright, hnext⟩
          · rw [hleft, hright]
            exact .refused e
          · rw [hleft, hright]
            show Alike ((afterMember value).bind _) ((afterMember value).bind _)
            cases hafter : afterMember value with
            | error e => exact .refused e
            | ok place =>
                cases place with
                | close rest => exact .read hnext rest
                | member rest =>
                    have hlt := length_afterMember hafter
                    refine ih rest.length ?_ hnext rest rfl
                    simp only [List.length_cons] at hn
                    omega
        · rw [readMembers_of_noValue hdup hvalue, readMembers_of_noValue hdup' hvalue]
          exact .refused _
      · rw [readMembers_of_noName hname, readMembers_of_noName hname]
        exact .refused _

theorem SameNames.missing? {seen seen' : Members α} (h : SameNames seen seen') :
    r.missing? seen = r.missing? seen' := by
  have hnone : ∀ name, (seen.lookup name).isNone = (seen'.lookup name).isNone := by
    intro name
    rw [← Option.not_isSome, ← Option.not_isSome, h.lookup]
  simp only [Record.missing?, hnone]

/-- What is wrong with an object, once its members have been read. -/
def faultOfObject (r : Record) : Except Refusal (Members α × List Lexeme) → Option Refusal
  | .error e => some e
  | .ok (seen, rest) =>
    match r.missing? seen with
    | some name => some (.mismatch [] (.missingField name))
    | none => if rest = [] then none else some .malformed

theorem faultOfObject_alike {x y : Except Refusal (Members α × List Lexeme)} (h : Alike x y) :
    faultOfObject r x = faultOfObject r y := by
  cases h with
  | refused e => rfl
  | read hnames rest => simp only [faultOfObject, hnames.missing?]

theorem refusal?_decodeRecord {source : List (Option Char)} {name : Option String}
    {body : List Lexeme} (h : lexemes source = .openBrace :: .text name :: body) :
    refusal? (decodeRecord r read source) =
      faultOfObject r (readMembers r read [] (.text name :: body)) := by
  rw [decodeRecord, h]
  simp only [readRecord]
  cases readMembers r read [] (.text name :: body) with
  | error e => rfl
  | ok got =>
      obtain ⟨seen, rest⟩ := got
      simp only [Except.bind, faultOfObject]
      cases r.missing? seen with
      | some name => rfl
      | none => cases rest <;> rfl

/-! ### In front of the gap -/

/-- What a reader makes of a value does not depend on what stands behind it. -/
def Local (read : Reader α) : Prop := ∀ v behind, IsValue v → read (v ++ behind) = read v

theorem addMember_local (hread : ∀ name, Local (read name)) (seen : Members α) (name : String)
    {v : List Lexeme} (hv : IsValue v) (behind : List Lexeme) :
    addMember r read seen name (v ++ behind) = addMember r read seen name v := by
  rw [addMember, addMember, hread name v behind hv]

/-- Members, each with a comma behind it. -/
def inFront (members : List (Option String × List Lexeme)) : List Lexeme :=
  members.flatMap fun m => memberLexemes m.1 m.2 ++ [.comma]

/-- What stands in front of a member is refused, or read and then forgotten but for its fields,
whatever comes next. -/
theorem readMembers_inFront (hread : ∀ name, Local (read name))
    {members : List (Option String × List Lexeme)} (hvalues : ∀ m ∈ members, IsValue m.2)
    (seen : Members α) :
    (∃ e, ∀ rest, readMembers r read seen (inFront members ++ rest) = .error e) ∨
      ∃ seen', ∀ rest, readMembers r read seen (inFront members ++ rest) =
        readMembers r read seen' rest := by
  induction members generalizing seen with
  | nil => exact Or.inr ⟨seen, fun rest => rfl⟩
  | cons m others ih =>
      obtain ⟨hm, hothers⟩ := List.forall_mem_cons.mp hvalues
      obtain ⟨name?, v⟩ := m
      have hfront : ∀ rest, inFront ((name?, v) :: others) ++ rest =
          .text name? :: .colon :: (v ++ (Next.member (inFront others ++ rest)).lexemes) := by
        intro rest
        simp [inFront, memberLexemes, Next.lexemes]
      cases name? with
      | none =>
          refine Or.inl ⟨.malformed, ?_⟩
          intro rest
          rw [hfront]
          unfold readMembers
          rfl
      | some name =>
          by_cases hdup : r.has name = true ∧ (seen.lookup name).isSome = true
          · refine Or.inl ⟨.mismatch [] (.duplicateField name), ?_⟩
            intro rest
            rw [hfront, readMembers_duplicate _ hdup]
          · have hmember : ∀ rest, readMembers r read seen
                (inFront ((some name, v) :: others) ++ rest) =
                (addMember r read seen name v).bind fun next =>
                  readMembers r read next (inFront others ++ rest) := by
              intro rest
              rw [hfront, readMembers_cons _ hdup, addMember_local hread seen name hm,
                afterMember_append hm]
              rfl
            cases hadd : addMember r read seen name v with
            | error e =>
                refine Or.inl ⟨e, ?_⟩
                intro rest
                rw [hmember, hadd]
                rfl
            | ok next =>
                have hbind : ∀ rest, readMembers r read seen
                    (inFront ((some name, v) :: others) ++ rest) =
                    readMembers r read next (inFront others ++ rest) := by
                  intro rest
                  rw [hmember, hadd]
                  rfl
                simp only [hbind]
                exact ih hothers next

/-! ### The gap and what stands behind it -/

/-- What comes after a value does not depend on the value. -/
theorem afterMember_congr {v w : List Lexeme} (hv : IsValue v) (hw : IsValue w)
    (behind : List Lexeme) : afterMember (v ++ behind) = afterMember (w ++ behind) := by
  rw [afterMember, afterMember, hv.valueLength?_append, hw.valueLength?_append]
  simp only [List.drop_left]

theorem goOn_alike {seen seen' : Members α} (h : SameNames seen seen') (next : Next) :
    Alike (next.goOn r read seen) (next.goOn r read seen') := by
  cases next with
  | close rest => exact .read h rest
  | member rest => exact readMembers_alike h rest

/-- What is wrong with an object behind a value, with these fields read up to there. -/
def faultBehind (r : Record) (read : String → Reader α) (seen : Members α)
    (behind : List Lexeme) : Option Refusal :=
  faultOfObject r ((afterMember ([.null] ++ behind)).bind (Next.goOn r read seen))

theorem faultBehind_congr {seen seen' : Members α} (h : SameNames seen seen')
    (behind : List Lexeme) : faultBehind r read seen behind = faultBehind r read seen' behind := by
  unfold faultBehind
  cases afterMember ([.null] ++ behind) with
  | error e => rfl
  | ok next => exact faultOfObject_alike (goOn_alike h next)

/-- **A value makes a difference only by being refused.**  If the reader comes to it and refuses
it, that is what is wrong with the object; and what is wrong with the object otherwise is the
same for all values. -/
theorem faultOfObject_member [Inhabited α] (hread : ∀ name, Local (read name)) {name : String}
    (hhas : r.has name = true) (seen : Members α) (behind : List Lexeme) :
    (∃ e, ∀ v, IsValue v → faultOfObject r
        (readMembers r read seen (memberLexemes (some name) (v ++ behind))) = some e) ∨
      ∃ otherwise, ∀ v, IsValue v → faultOfObject r
        (readMembers r read seen (memberLexemes (some name) (v ++ behind))) =
          ((refusal? (read name v)).map (Refusal.under (.field name))).or otherwise := by
  by_cases hdup : r.has name = true ∧ (seen.lookup name).isSome = true
  · refine Or.inl ⟨.mismatch [] (.duplicateField name), ?_⟩
    intro v _
    rw [memberLexemes, readMembers_duplicate _ hdup]
    rfl
  · -- any value will do for what is read behind it
    refine Or.inr ⟨faultBehind r read ((name, default) :: seen) behind, ?_⟩
    intro v hv
    rw [memberLexemes, readMembers_cons _ hdup, addMember_local hread seen name hv,
      afterMember_congr hv .null, addMember, if_pos hhas]
    cases read name v with
    | error e => rfl
    | ok a => exact faultBehind_congr (SameNames.cons rfl name a default) behind

/-! ### The whole text -/

/-- The text of an object up to the value of a member, and whatever stands behind the value. -/
structure Gap (name : String) where
  before : List (Option Char)
  after : List (Option Char)
  /-- The members in front of the one with the gap. -/
  members : List (Option String × List Lexeme)
  values : ∀ m ∈ members, IsValue m.2
  lexemes_before :
    lexemes before = .openBrace :: (inFront members ++ [.text (some name), .colon])

namespace Gap

variable {name : String}

/-- The text with a value in the gap. -/
def fill (g : Gap name) (value : List (Option Char)) : List (Option Char) :=
  g.before ++ (value ++ g.after)

/-- A value that ends where the gap ends. -/
structure Fits (g : Gap name) (value : List (Option Char)) : Prop where
  isValue : IsValue (lexemes value)
  /-- A number is complete. -/
  apart : ∀ n, lexemes value = [.number n] →
    ∀ c, g.after.head? = some (some c) → ¬ContinuesNumber c

end Gap

/-- A value does not end in a place where it has stopped being JSON, and in a number only if it is
one. -/
theorem IsValue.getLast? {v : List Lexeme} (hv : IsValue v) :
    ∃ l, v.getLast? = some l ∧ l ≠ .stray ∧ ∀ n, l = .number n → v = [.number n] := by
  cases hv with
  | null => exact ⟨_, rfl, by simp, by simp⟩
  | bool b => exact ⟨_, rfl, by simp, by simp⟩
  | number n => exact ⟨_, rfl, by simp, by simp⟩
  | text s => exact ⟨_, rfl, by simp, by simp⟩
  | array elements _ => exact ⟨.closeBracket, List.getLast?_concat, by simp, by simp⟩
  | object members _ => exact ⟨.closeBrace, List.getLast?_concat, by simp, by simp⟩

theorem Gap.lexemes_fill {name : String} {g : Gap name} {value : List (Option Char)}
    (h : g.Fits value) :
    lexemes (g.fill value) =
      .openBrace :: (inFront g.members ++
        memberLexemes (some name) (lexemes value ++ lexemes g.after)) := by
  obtain ⟨l, hlast, hstray, hnumber⟩ := h.isValue.getLast?
  have hvalue : lexemes (value ++ g.after) = lexemes value ++ lexemes g.after :=
    lexemes_append hlast hstray fun n hn => h.apart n (hnumber n hn)
  have hcolon : (lexemes g.before).getLast? = some .colon := by
    rw [g.lexemes_before, List.getLast?_eq_some_iff]
    exact ⟨.openBrace :: (inFront g.members ++ [.text (some name)]), by simp⟩
  rw [Gap.fill, lexemes_append hcolon (by simp) (by simp), hvalue, g.lexemes_before]
  simp [memberLexemes]

/-- **How a text with a gap is refused.**  It is refused in front of the gap, whatever fills it;
or what is wrong with the value is what is wrong with the text; or it does not matter what the
value is. -/
theorem Gap.refusal?_fill [Inhabited α] (hread : ∀ name, Local (read name)) {name : String}
    (hhas : r.has name = true) (g : Gap name) :
    (∃ e, ∀ value, g.Fits value → refusal? (decodeRecord r read (g.fill value)) = some e) ∨
      ∃ otherwise, ∀ value, g.Fits value → refusal? (decodeRecord r read (g.fill value)) =
        ((refusal? (read name (lexemes value))).map (Refusal.under (.field name))).or
          otherwise := by
  have hfill : ∀ value, g.Fits value → refusal? (decodeRecord r read (g.fill value)) =
      faultOfObject r (readMembers r read [] (inFront g.members ++
        memberLexemes (some name) (lexemes value ++ lexemes g.after))) := by
    intro value hvalue
    obtain ⟨first, body, hbody⟩ : ∃ first body, inFront g.members ++
        memberLexemes (some name) (lexemes value ++ lexemes g.after) = .text first :: body := by
      cases g.members with
      | nil => exact ⟨_, _, rfl⟩
      | cons m others => exact ⟨_, _, rfl⟩
    have hls := lexemes_fill hvalue
    rw [hbody] at hls
    rw [refusal?_decodeRecord hls, hbody]
  rcases @readMembers_inFront α r read hread g.members g.values [] with ⟨e, hfront⟩ | ⟨seen, hfront⟩
  · refine Or.inl ⟨e, ?_⟩
    intro value hvalue
    rw [hfill value hvalue, hfront]
    rfl
  · rcases faultOfObject_member hread hhas seen (lexemes g.after) with
      ⟨e, hmember⟩ | ⟨otherwise, hmember⟩
    · refine Or.inl ⟨e, ?_⟩
      intro value hvalue
      rw [hfill value hvalue, hfront, hmember _ hvalue.isValue]
    · refine Or.inr ⟨otherwise, ?_⟩
      intro value hvalue
      rw [hfill value hvalue, hfront, hmember _ hvalue.isValue]

end OrderDesk.Json
