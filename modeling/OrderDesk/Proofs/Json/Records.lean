/-
What a record that was read says about the text.

A reader of records goes from member to member, hands the values of the members it knows
to other readers and steps over the rest.  Here it is turned around: a text that was
accepted is an object or an array, each field that was read is the value of the only
member with its name or of the element at its place, and nothing else was taken from the
text.
-/
import OrderDesk.Proofs.Fallible
import OrderDesk.Proofs.Json.Grammar

namespace OrderDesk.Json

/-! ### Objects and arrays -/

/-- The lexemes make up an object with these members. -/
structure IsObject (ls : List Lexeme) (members : List (String × List Lexeme)) : Prop where
  lexemes : ls = objectLexemes (members.map fun m => (some m.1, m.2))
  values : ∀ m ∈ members, IsValue m.2

/-- The lexemes make up an array of these elements. -/
structure IsArray (ls : List Lexeme) (elements : List (List Lexeme)) : Prop where
  lexemes : ls = arrayLexemes elements
  values : ∀ v ∈ elements, IsValue v

/-- The members with this name. -/
def named (members : List (String × List Lexeme)) (name : String) :
    List (String × List Lexeme) :=
  members.filter fun m => m.1 = name

/-- There is one member with this name, and it has this value. -/
def HasOnly (members : List (String × List Lexeme)) (name : String) (value : List Lexeme) : Prop :=
  named members name = [(name, value)]

theorem IsObject.value_of_hasOnly {ls : List Lexeme} {members : List (String × List Lexeme)}
    (h : IsObject ls members) {name : String} {value : List Lexeme}
    (honly : HasOnly members name value) : IsValue value := by
  have hmem : (name, value) ∈ named members name := by
    rw [honly]
    simp
  exact h.values _ ((List.mem_filter.mp hmem).1)

theorem named_cons (m : String × List Lexeme) (members : List (String × List Lexeme))
    (name : String) :
    named (m :: members) name =
      if m.1 = name then m :: named members name else named members name := by
  simp [named, List.filter_cons]

variable {α : Type} {r : Record} {read : String → Reader α}

/-- A reader takes this from the value, whatever stands behind it. -/
def Takes (read : Reader α) (value : List Lexeme) (a : α) : Prop :=
  ∃ behind, read (value ++ behind) = .ok a

/-- What was read of a field: nothing new, when no member has its name, and otherwise what the
only one holds. -/
def Gathered (read : String → Reader α) (members : List (String × List Lexeme))
    (seen seen' : Members α) (name : String) : Prop :=
  (named members name = [] ∧ seen'.lookup name = seen.lookup name) ∨
    (seen.lookup name = none ∧ ∃ value a, HasOnly members name value ∧
      seen'.lookup name = some a ∧ Takes (read name) value a)

theorem refuse_ne_ok {expected : String} {ls : List Lexeme} {a : α} :
    refuse expected ls ≠ .ok a := by
  unfold refuse
  split <;> simp

/-! ### Members -/

/-- The lexemes from the comma or brace behind a member on. -/
def Next.lexemes : Next → List Lexeme
  | .member rest => .comma :: rest
  | .close rest => .closeBrace :: rest

theorem value_of_afterMember {value : List Lexeme} {next : Next}
    (h : afterMember value = .ok next) : ∃ v, IsValue v ∧ value = v ++ next.lexemes := by
  unfold afterMember at h
  split at h
  · cases h
  · next n hn =>
    obtain ⟨v, hv, hvalue⟩ := isValue_of_valueLength? hn
    refine ⟨v, hvalue, ?_⟩
    split at h
    · next rest hrest =>
      cases h
      rw [hv, hrest]
      simp [Next.lexemes]
    · next rest hrest =>
      cases h
      rw [hv, hrest]
      simp [Next.lexemes]
    · cases h

/-- What is read after a member. -/
def Next.goOn (r : Record) (read : String → Reader α) (seen : Members α) :
    Next → Except Refusal (Members α × List Lexeme)
  | .close rest => .ok (seen, rest)
  | .member rest => readMembers r read seen rest

/-- The fields after the value that stands behind a new name. -/
def addMember (r : Record) (read : String → Reader α) (seen : Members α) (name : String)
    (value : List Lexeme) : Except Refusal (Members α) :=
  if r.has name then
    match read name value with
    | .ok a => .ok ((name, a) :: seen)
    | .error e => .error (e.under (.field name))
  else .ok seen

/-- A member is read, and then what comes behind it. -/
theorem readMembers_cons {seen : Members α} {name : String} (value : List Lexeme)
    (hnew : ¬(r.has name = true ∧ (seen.lookup name).isSome = true)) :
    readMembers r read seen (.text (some name) :: .colon :: value) =
      (addMember r read seen name value).bind fun seen₁ =>
        (afterMember value).bind (Next.goOn r read seen₁) := by
  rw [readMembers]
  simp only [if_neg hnew]
  split
  · next e he =>
    have hadd : addMember r read seen name value = .error e := he
    rw [hadd]
    rfl
  · next seen₁ hok =>
    have hadd : addMember r read seen name value = .ok seen₁ := hok
    rw [hadd]
    show _ = (afterMember value).bind (Next.goOn r read seen₁)
    split
    · next e hafter => rw [hafter]; rfl
    · next rest hafter => rw [hafter]; rfl
    · next more hafter => rw [hafter]; rfl

/-- The fields after one more member. -/
def AddsMember (r : Record) (read : String → Reader α) (seen : Members α) (name : String)
    (value : List Lexeme) (seen' : Members α) : Prop :=
  if r.has name then
    seen.lookup name = none ∧ ∃ a, read name value = .ok a ∧ seen' = (name, a) :: seen
  else seen' = seen

theorem addsMember_iff {seen seen₁ : Members α} {name : String} {value : List Lexeme} :
    AddsMember r read seen name value seen₁ ↔
      ¬(r.has name = true ∧ (seen.lookup name).isSome = true) ∧
        addMember r read seen name value = .ok seen₁ := by
  unfold AddsMember addMember
  by_cases hhas : r.has name = true
  · rw [if_pos hhas, if_pos hhas]
    cases hread : read name value with
    | error e => simp
    | ok a =>
        constructor
        · rintro ⟨hnew, b, hb, rfl⟩
          cases hb
          exact ⟨by simp [hnew], rfl⟩
        · rintro ⟨hnew, hok⟩
          cases hok
          refine ⟨?_, a, rfl, rfl⟩
          rw [← Option.not_isSome_iff_eq_none]
          exact fun hseen => hnew ⟨hhas, hseen⟩
  · rw [if_neg hhas, if_neg hhas]
    constructor
    · rintro rfl
      exact ⟨fun h => hhas h.1, rfl⟩
    · rintro ⟨_, hok⟩
      cases hok
      rfl

/-- The fields of other names stay as they were. -/
theorem AddsMember.lookup_of_ne {seen seen₁ : Members α} {name name' : String}
    {value : List Lexeme} (h : AddsMember r read seen name value seen₁) (hne : name ≠ name') :
    seen₁.lookup name' = seen.lookup name' := by
  unfold AddsMember at h
  split at h
  · obtain ⟨_, a, _, rfl⟩ := h
    have hbeq : (name' == name) = false := by simpa using hne.symm
    simp [List.lookup_cons, hbeq]
  · rw [h]

/-- A member is read, and then the object ends or goes on. -/
theorem readMembers_ok {seen seen' : Members α} {ls rest : List Lexeme}
    (h : readMembers r read seen ls = .ok (seen', rest)) :
    ∃ name value seen₁ next, ls = .text (some name) :: .colon :: value ∧
      AddsMember r read seen name value seen₁ ∧ afterMember value = .ok next ∧
      next.goOn r read seen₁ = .ok (seen', rest) := by
  have hshape : ∃ name value, ls = .text (some name) :: .colon :: value ∧
      ¬(r.has name = true ∧ (seen.lookup name).isSome = true) := by
    unfold readMembers at h
    split at h
    · next name behind =>
      split at h
      · cases h
      · next hnew =>
        split at h
        · next value => exact ⟨name, value, rfl, hnew⟩
        · cases h
    · cases h
  obtain ⟨name, value, rfl, hnew⟩ := hshape
  rw [readMembers_cons value hnew] at h
  obtain ⟨seen₁, hadd, h⟩ := ok_of_bind h
  obtain ⟨next, hafter, h⟩ := ok_of_bind h
  exact ⟨name, value, seen₁, next, rfl, addsMember_iff.mpr ⟨hnew, hadd⟩, hafter, h⟩

theorem Gathered.cons {members : List (String × List Lexeme)} {seen seen₁ seen' : Members α}
    {name name' : String} {v behind : List Lexeme}
    (hadd : AddsMember r read seen name (v ++ behind) seen₁) (hhas : r.has name')
    (h : Gathered read members seen₁ seen' name') :
    Gathered read ((name, v) :: members) seen seen' name' := by
  by_cases hname : name = name'
  · subst hname
    rw [AddsMember, if_pos hhas] at hadd
    obtain ⟨hnew, a, ha, rfl⟩ := hadd
    rcases h with ⟨hnone, hlookup⟩ | ⟨hseen, _⟩
    · refine Or.inr ⟨hnew, v, a, ?_, ?_, behind, ha⟩
      · rw [HasOnly, named_cons, if_pos rfl, hnone]
      · rw [hlookup]
        simp
    · simp at hseen
  · unfold Gathered HasOnly at h ⊢
    rw [named_cons, if_neg hname, ← hadd.lookup_of_ne hname]
    exact h

/-- What is read of the members up to the end of an object. -/
theorem readMembers_gathered {seen seen' : Members α} {ls rest : List Lexeme}
    (h : readMembers r read seen ls = .ok (seen', rest)) :
    ∃ members : List (String × List Lexeme), members ≠ [] ∧ (∀ m ∈ members, IsValue m.2) ∧
      ls = [Lexeme.comma].intercalate (members.map fun m => memberLexemes (some m.1) m.2) ++
        .closeBrace :: rest ∧
      ∀ name, r.has name → Gathered read members seen seen' name := by
  induction hn : ls.length using Nat.strongRecOn generalizing ls seen with
  | ind n ih =>
      obtain ⟨name, value, seen₁, next, rfl, hadd, hafter, hrec⟩ := readMembers_ok h
      obtain ⟨v, hv, rfl⟩ := value_of_afterMember hafter
      cases next with
      | close left =>
        cases hrec
        refine ⟨[(name, v)], by simp, by simpa using hv, by simp [memberLexemes, Next.lexemes], ?_⟩
        intro name' hhas
        exact Gathered.cons hadd hhas (Or.inl ⟨rfl, rfl⟩)
      | member more =>
        have hlt := length_afterMember hafter
        obtain ⟨members, hne, hvalues, rfl, hgathered⟩ := ih more.length
          (by rw [← hn]; simp only [List.length_cons]; omega) hrec rfl
        refine ⟨(name, v) :: members, by simp, ?_, ?_, ?_⟩
        · intro m hm
          rcases List.mem_cons.mp hm with rfl | hm
          · exact hv
          · exact hvalues m hm
        · cases members with
          | nil => exact absurd rfl hne
          | cons m others =>
              simp [memberLexemes, Next.lexemes, List.intercalate_cons_cons]
        · intro name' hhas
          exact Gathered.cons hadd hhas (hgathered name' hhas)

/-! ### Elements -/

/-- A field that is there is the one in front, or one of the others. -/
theorem eq_or_of_lookup_cons {name field : String} {a b : α} {seen : Members α}
    (h : List.lookup name ((field, a) :: seen) = some b) :
    (field = name ∧ a = b) ∨ seen.lookup name = some b := by
  by_cases hname : name = field
  · subst hname
    exact Or.inl ⟨rfl, by simpa using h⟩
  · have hbeq : (name == field) = false := by simpa using hname
    exact Or.inr (by simpa [List.lookup_cons, hbeq] using h)

/-- What is read of the elements up to the end of an array. -/
theorem readElements_gathered {seen seen' : Members α} {index : Nat} {fields : List Field}
    {ls rest : List Lexeme} (h : readElements read seen index fields ls = .ok (seen', rest)) :
    ∃ elements : List (List Lexeme), elements ≠ [] ∧ (∀ v ∈ elements, IsValue v) ∧
      ls = [Lexeme.comma].intercalate elements ++ .closeBracket :: rest ∧
      ∀ name a, seen'.lookup name = some a → seen.lookup name = some a ∨
        ∃ (i : Nat) (f : Field) (value : List Lexeme), fields[i]? = some f ∧ f.name = name ∧
          elements[i]? = some value ∧ Takes (read name) value a := by
  induction fields generalizing seen index ls with
  | nil => cases h
  | cons f fields ih =>
      rw [readElements] at h
      split at h
      · cases h
      · next a ha =>
        split at h
        · cases h
        · next n hn =>
          obtain ⟨v, hv, hvalue⟩ := isValue_of_valueLength? hn
          have hfirst : ∀ name b, List.lookup name ((f.name, a) :: seen) = some b →
              List.lookup name seen = some b ∨ f.name = name ∧ Takes (read name) v b := by
            intro name b hb
            rcases eq_or_of_lookup_cons hb with ⟨hname, rfl⟩ | hold
            · exact Or.inr ⟨hname, ls.drop n, by rw [← hv, ← hname]; exact ha⟩
            · exact Or.inl hold
          split at h
          · next hdrop =>
            cases h
            rw [hdrop] at hv
            refine ⟨[v], by simp, by simpa using hvalue, by simpa using hv, ?_⟩
            intro name b hb
            rcases hfirst name b hb with hold | ⟨hname, htakes⟩
            · exact Or.inl hold
            · exact Or.inr ⟨0, f, v, rfl, hname, rfl, htakes⟩
          · next more hdrop =>
            obtain ⟨elements, hne, hvalues, rfl, hgathered⟩ := ih h
            rw [hdrop] at hv
            refine ⟨v :: elements, by simp, by simpa using ⟨hvalue, hvalues⟩, ?_, ?_⟩
            · cases elements with
              | nil => exact absurd rfl hne
              | cons e others => simpa [List.intercalate_cons_cons] using hv
            · intro name b hb
              rcases hgathered name b hb with hold | ⟨i, g, w, hg, hname, hw, htakes⟩
              · rcases hfirst name b hold with hold | ⟨hname, htakes⟩
                · exact Or.inl hold
                · exact Or.inr ⟨0, f, v, rfl, hname, rfl, htakes⟩
              · exact Or.inr ⟨i + 1, g, w, hg, hname, hw, htakes⟩
          · cases h

/-! ### Whole texts -/

/-- The lexemes are an object, and each field that was read is what the only member with its
name holds. -/
def ReadFromObject (r : Record) (read : String → Reader α) (ls : List Lexeme)
    (seen : Members α) : Prop :=
  ∃ members, IsObject ls members ∧ ∀ name a, r.has name → seen.lookup name = some a →
    ∃ value, HasOnly members name value ∧ Takes (read name) value a

/-- The lexemes are an array, and each field that was read is what the element at its place
holds. -/
def ReadFromArray (r : Record) (read : String → Reader α) (ls : List Lexeme)
    (seen : Members α) : Prop :=
  ∃ elements, IsArray ls elements ∧ ∀ name a, seen.lookup name = some a →
    ∃ (i : Nat) (f : Field) (value : List Lexeme), r.fields[i]? = some f ∧ f.name = name ∧
      elements[i]? = some value ∧ Takes (read name) value a

theorem readFromObject_of_members {seen : Members α} {ls : List Lexeme}
    (h : readMembers r read [] ls = .ok (seen, [])) :
    ReadFromObject r read (.openBrace :: ls) seen := by
  obtain ⟨members, _, hvalues, rfl, hgathered⟩ := readMembers_gathered h
  refine ⟨members, ⟨?_, hvalues⟩, ?_⟩
  · simp [objectLexemes, List.map_map, Function.comp_def]
  · intro name a hhas ha
    rcases hgathered name hhas with ⟨_, hlookup⟩ | ⟨_, value, b, honly, hlookup, htakes⟩
    · rw [ha] at hlookup
      cases hlookup
    · rw [ha] at hlookup
      cases hlookup
      exact ⟨value, honly, htakes⟩

theorem readFromArray_of_elements {seen : Members α} {ls : List Lexeme}
    (h : readElements read [] 0 r.fields ls = .ok (seen, [])) :
    ReadFromArray r read (.openBracket :: ls) seen := by
  obtain ⟨elements, _, hvalues, rfl, hgathered⟩ := readElements_gathered h
  refine ⟨elements, ⟨by simp [arrayLexemes], hvalues⟩, ?_⟩
  intro name a ha
  rcases hgathered name a ha with hold | hfield
  · cases hold
  · exact hfield

/-- A record that is read is empty, or its members or elements are read one by one. -/
theorem readRecord_ok {ls rest : List Lexeme} {seen : Members α}
    (h : readRecord r read ls = .ok (seen, rest)) :
    (seen = [] ∧ ls = .openBrace :: .closeBrace :: rest) ∨
      (∃ body, ls = .openBrace :: body ∧ readMembers r read [] body = .ok (seen, rest)) ∨
      (seen = [] ∧ ls = .openBracket :: .closeBracket :: rest) ∨
      ∃ body, ls = .openBracket :: body ∧
        readElements read [] 0 r.fields body = .ok (seen, rest) := by
  unfold readRecord at h
  simp only at h
  split at h
  · split at h
    · cases h
    · cases h
      exact Or.inl ⟨rfl, rfl⟩
  · next body _ =>
    obtain ⟨⟨got, left⟩, hread, hcheck⟩ := ok_of_bind h
    split at hcheck
    · cases hcheck
    · cases hcheck
      exact Or.inr (Or.inl ⟨body, rfl, hread⟩)
  · split at h
    · cases h
    · cases h
      exact Or.inr (Or.inr (Or.inl ⟨rfl, rfl⟩))
  · next body _ =>
    obtain ⟨⟨got, left⟩, hread, hcheck⟩ := ok_of_bind h
    split at hcheck
    · cases hcheck
    · cases hcheck
      exact Or.inr (Or.inr (Or.inr ⟨body, rfl, hread⟩))
  · exact absurd h refuse_ne_ok

/-- **A record that was read is an object or an array, and its fields stand there.** -/
theorem readFrom_of_decodeRecord {source : List (Option Char)} {seen : Members α}
    (h : decodeRecord r read source = .ok seen) :
    ReadFromObject r read (lexemes source) seen ∨ ReadFromArray r read (lexemes source) seen := by
  have hrecord : readRecord r read (lexemes source) = .ok (seen, []) := by
    unfold decodeRecord at h
    split at h
    · cases h
    · next hread =>
      cases h
      exact hread
    · cases h
  rcases readRecord_ok hrecord with
    ⟨rfl, hls⟩ | ⟨body, hls, hread⟩ | ⟨rfl, hls⟩ | ⟨body, hls, hread⟩
  · refine Or.inl ⟨[], ⟨by rw [hls]; rfl, by simp⟩, ?_⟩
    intro name a _ ha
    cases ha
  · rw [hls]
    exact Or.inl (readFromObject_of_members hread)
  · refine Or.inr ⟨[], ⟨by rw [hls]; rfl, by simp⟩, ?_⟩
    intro name a ha
    cases ha
  · rw [hls]
    exact Or.inr (readFromArray_of_elements hread)

/-! ### Reading what stands there

The other direction: members that fit are read, one after another.
-/

theorem AddsMember.known {seen : Members α} {name : String} {value : List Lexeme} {a : α}
    (hhas : r.has name = true) (hnew : seen.lookup name = none) (ha : read name value = .ok a) :
    AddsMember r read seen name value ((name, a) :: seen) := by
  rw [AddsMember, if_pos hhas]
  exact ⟨hnew, a, ha, rfl⟩

theorem AddsMember.unknown {seen : Members α} {name : String} {value : List Lexeme}
    (hhas : r.has name = false) : AddsMember r read seen name value seen := by
  rw [AddsMember, if_neg (by simp [hhas])]

/-- Members that a record can be read from, with the fields before and after. -/
inductive Collects (r : Record) (read : String → Reader α) :
    Members α → List (String × List Lexeme) → Members α → Prop where
  | nil (seen : Members α) : Collects r read seen [] seen
  | cons {seen seen₁ seen' : Members α} {name : String} {v : List Lexeme}
      {members : List (String × List Lexeme)} (hv : IsValue v)
      (hadd : ∀ behind, AddsMember r read seen name (v ++ behind) seen₁)
      (h : Collects r read seen₁ members seen') : Collects r read seen ((name, v) :: members) seen'

theorem afterMember_append {v : List Lexeme} (hv : IsValue v) (next : Next) :
    afterMember (v ++ next.lexemes) = .ok next := by
  rw [afterMember, hv.valueLength?_append]
  cases next <;> simp [Next.lexemes]

theorem readMembers_member {seen seen₁ : Members α} {name : String} {v : List Lexeme}
    (hv : IsValue v) (next : Next)
    (hadd : AddsMember r read seen name (v ++ next.lexemes) seen₁) :
    readMembers r read seen (memberLexemes (some name) v ++ next.lexemes) =
      next.goOn r read seen₁ := by
  obtain ⟨hnew, hok⟩ := addsMember_iff.mp hadd
  rw [memberLexemes, List.cons_append, List.cons_append, readMembers_cons _ hnew, hok]
  show (afterMember (v ++ next.lexemes)).bind (Next.goOn r read seen₁) = _
  rw [afterMember_append hv next]
  rfl

/-- **Members that fit are read.** -/
theorem readMembers_of_collects {seen seen' : Members α} {members : List (String × List Lexeme)}
    (h : Collects r read seen members seen') (hne : members ≠ []) (rest : List Lexeme) :
    readMembers r read seen
        ([Lexeme.comma].intercalate (members.map fun m => memberLexemes (some m.1) m.2) ++
          .closeBrace :: rest) = .ok (seen', rest) := by
  induction h with
  | nil => exact absurd rfl hne
  | @cons seen seen₁ seen' name v members hv hadd h ih =>
      cases members with
      | nil =>
          cases h
          have hlast := readMembers_member hv (.close rest) (hadd _)
          simpa [Next.lexemes, Next.goOn] using hlast
      | cons m others =>
          let behind := [Lexeme.comma].intercalate
            ((m :: others).map fun m => memberLexemes (some m.1) m.2) ++ .closeBrace :: rest
          have hmore := readMembers_member hv (.member behind) (hadd _)
          rw [Next.goOn, ih (by simp)] at hmore
          rw [← hmore]
          simp [behind, Next.lexemes, List.intercalate_cons_cons]

/-- A text that is an object is read as a record, if its members fit and no field is missing. -/
theorem decodeRecord_of_collects {source : List (Option Char)} {seen : Members α}
    (members : List (String × List Lexeme))
    (hsource : lexemes source = objectLexemes (members.map fun m => (some m.1, m.2)))
    (hne : members ≠ []) (h : Collects r read [] members seen) (hmissing : r.missing? seen = none) :
    decodeRecord r read source = .ok seen := by
  obtain ⟨m, others, rfl⟩ := List.exists_cons_of_ne_nil hne
  have hread := readMembers_of_collects h hne []
  obtain ⟨tail, htail⟩ : ∃ tail,
      [Lexeme.comma].intercalate ((m :: others).map fun m => memberLexemes (some m.1) m.2) ++
        [.closeBrace] = .text (some m.1) :: tail := by
    rw [List.map_cons, intercalate_cons]
    exact ⟨_, rfl⟩
  rw [htail] at hread
  have hls : lexemes source = .openBrace :: .text (some m.1) :: tail := by
    rw [hsource, objectLexemes, List.map_map, List.cons_append, ← htail]
    rfl
  simp [decodeRecord, hls, readRecord, hread, Except.bind, hmissing]

end OrderDesk.Json
