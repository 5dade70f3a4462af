/-
Records are read by what their fields hold.

Reading an object is a fold over its members, and what a member adds depends on nothing but its
name and its value.  `Taken` says what becomes of one field on the way: it stays as it was when
no member has its name, and otherwise the only one gives it its value.  So the members of other
names, the order of all and the way in which they are spelled make no difference to what is read,
and a name that comes twice is refused.

An array of all fields in order is read like the object that names its elements.
-/
import Mathlib.Data.List.Forall2
import OrderDesk.Proofs.Json.Tree
import OrderDesk.Proofs.Json.Values

namespace OrderDesk.Json

variable {α : Type} {r : Record} {read : String → Reader α}

/-! ### Members one after another -/

/-- The fields after one more member. -/
def takeMember (r : Record) (read : String → Reader α) (seen : Members α)
    (m : Option String × Tree) : Except Refusal (Members α) :=
  match m.1 with
  | none => .error .malformed
  | some name =>
    if r.has name ∧ (seen.lookup name).isSome then
      .error (.mismatch [] (.duplicateField name))
    else addMember r read seen name m.2.lexemes

/-- A member is read by its name and its value, and then comes what stands behind it. -/
theorem readMembers_takeMember (hread : ∀ name, Local (read name)) (seen : Members α)
    (m : Option String × Tree) (next : Next) :
    readMembers r read seen (memberLexemes m.1 m.2.lexemes ++ next.lexemes) =
      (takeMember r read seen m).bind (next.goOn r read) := by
  obtain ⟨name?, t⟩ := m
  cases name? with
  | none =>
      refine readMembers_of_noName ?_
      rintro ⟨name, behind, ⟨⟩⟩
  | some name =>
      simp only [memberLexemes, takeMember, List.cons_append]
      by_cases hdup : r.has name = true ∧ (seen.lookup name).isSome = true
      · rw [readMembers_duplicate _ hdup, if_pos hdup]
        rfl
      · rw [readMembers_cons _ hdup, if_neg hdup,
          addMember_local hread seen name t.isValue_lexemes, afterMember_append t.isValue_lexemes]
        rfl

/-- **Reading an object is a fold over its members.** -/
theorem readMembers_eq_foldlM (hread : ∀ name, Local (read name))
    {members : List (Option String × Tree)} (hne : members ≠ []) (seen : Members α)
    (rest : List Lexeme) :
    readMembers r read seen
        ([Lexeme.comma].intercalate (members.map fun m => memberLexemes m.1 m.2.lexemes) ++
          .closeBrace :: rest) =
      (members.foldlM (takeMember r read) seen).map fun seen => (seen, rest) := by
  induction members generalizing seen with
  | nil => exact absurd rfl hne
  | cons m others ih =>
      cases others with
      | nil =>
          have hlast := readMembers_takeMember (r := r) hread seen m (.close rest)
          simp only [Next.lexemes, Next.goOn] at hlast
          simp only [List.map_cons, List.map_nil, List.intercalate_singleton, hlast,
            List.foldlM_cons, List.foldlM_nil, bind_pure]
          cases takeMember r read seen m <;> rfl
      | cons m' more =>
          have hmore := readMembers_takeMember (r := r) hread seen m (.member
            ([Lexeme.comma].intercalate
              ((m' :: more).map fun m => memberLexemes m.1 m.2.lexemes) ++ .closeBrace :: rest))
          simp only [List.map_cons, List.intercalate_cons_cons, Next.lexemes, List.append_assoc,
            List.cons_append, List.nil_append, List.foldlM_cons] at hmore ih ⊢
          rw [hmore]
          cases takeMember r read seen m with
          | error e => rfl
          | ok seen₁ => exact ih (by simp) seen₁

/-- What is read of an object with these members. -/
def takeObject (r : Record) (read : String → Reader α) (members : List (Option String × Tree)) :
    Except Refusal (Members α) :=
  (members.foldlM (takeMember r read) []).bind fun seen =>
    match r.missing? seen with
    | some name => .error (.mismatch [] (.missingField name))
    | none => .ok seen

theorem decodeRecord_object (hread : ∀ name, Local (read name)) {source : List (Option Char)}
    {members : List (Option String × Tree)}
    (h : lexemes source = (Tree.object members).lexemes) :
    decodeRecord r read source = takeObject r read members := by
  rw [decodeRecord, h, Tree.lexemes, objectLexemes, List.map_map]
  cases members with
  | nil =>
      simp only [takeObject, readRecord, List.map_nil, List.intercalate_nil, List.nil_append,
        List.cons_append, List.foldlM_nil]
      cases hmissing : r.missing? ([] : Members α) <;>
        simp [pure, Except.pure, Except.bind, hmissing]
  | cons m others =>
      have hfold := readMembers_eq_foldlM (r := r) hread (List.cons_ne_nil m others) [] []
      obtain ⟨tail, htail⟩ : ∃ tail,
          [Lexeme.comma].intercalate ((m :: others).map fun m => memberLexemes m.1 m.2.lexemes) ++
            [.closeBrace] = .text m.1 :: tail := by
        rw [List.map_cons, intercalate_cons]
        exact ⟨_, rfl⟩
      rw [htail] at hfold
      simp only [Function.comp_def, List.cons_append]
      rw [htail]
      simp only [readRecord, hfold, takeObject]
      cases (m :: others).foldlM (takeMember r read) [] with
      | error e => rfl
      | ok seen =>
          simp only [Except.map, Except.bind]
          cases r.missing? seen <;> rfl

/-! ### Fields -/

/-- What the members with this name hold. -/
def valuesOf (members : List (Option String × Tree)) (name : String) : List Tree :=
  (members.filter fun m => m.1 = some name).map Prod.snd

theorem valuesOf_cons_self (name : String) (t : Tree) (members : List (Option String × Tree)) :
    valuesOf ((some name, t) :: members) name = t :: valuesOf members name := by
  simp [valuesOf]

theorem valuesOf_cons_ne {key : Option String} {name : String} (h : key ≠ some name) (t : Tree)
    (members : List (Option String × Tree)) :
    valuesOf ((key, t) :: members) name = valuesOf members name := by
  simp [valuesOf, h]

theorem valuesOf_append (members more : List (Option String × Tree)) (name : String) :
    valuesOf (members ++ more) name = valuesOf members name ++ valuesOf more name := by
  simp [valuesOf]

theorem valuesOf_perm {members members' : List (Option String × Tree)} (h : members.Perm members')
    (name : String) : (valuesOf members name).Perm (valuesOf members' name) :=
  (h.filter _).map _

/-- What becomes of a field when the members with its name hold these values. -/
inductive Taken (read : Reader α) : List Tree → Option α → Option α → Prop where
  | nothing (before : Option α) : Taken read [] before before
  | value {t : Tree} {a : α} (h : read t.lexemes = .ok a) : Taken read [t] none (some a)

theorem takeMember_ok {seen seen₁ : Members α} {m : Option String × Tree} :
    takeMember r read seen m = .ok seen₁ ↔
      ∃ name, m.1 = some name ∧ AddsMember r read seen name m.2.lexemes seen₁ := by
  obtain ⟨name?, t⟩ := m
  cases name? with
  | none => simp [takeMember]
  | some name =>
      simp only [takeMember, addsMember_iff, Option.some.injEq, exists_eq_left']
      by_cases hdup : r.has name = true ∧ (seen.lookup name).isSome = true
      · simp [hdup]
      · rw [if_neg hdup]
        exact ⟨fun h => ⟨hdup, h⟩, fun h => h.2⟩

/-- **What was read of each field, when the members were read.** -/
theorem taken_of_foldlM {members : List (Option String × Tree)} {seen seen' : Members α}
    (h : members.foldlM (takeMember r read) seen = .ok seen') :
    (∀ m ∈ members, m.1 ≠ none) ∧ ∀ name, r.has name = true →
      Taken (read name) (valuesOf members name) (seen.lookup name) (seen'.lookup name) := by
  induction members generalizing seen with
  | nil =>
      cases h
      exact ⟨by simp, fun name _ => .nothing _⟩
  | cons m others ih =>
      obtain ⟨key, t⟩ := m
      obtain ⟨seen₁, hmember, hothers⟩ := ok_of_bind h
      obtain ⟨first, rfl, hadd⟩ := takeMember_ok.mp hmember
      obtain ⟨hkeys, htaken⟩ := ih hothers
      refine ⟨List.forall_mem_cons.mpr ⟨by simp, hkeys⟩, ?_⟩
      intro name hhas
      have hrest := htaken name hhas
      by_cases hname : first = name
      · subst hname
        rw [AddsMember, if_pos hhas] at hadd
        obtain ⟨hnew, a, ha, rfl⟩ := hadd
        rw [valuesOf_cons_self, hnew]
        simp only [List.lookup_cons_self] at hrest
        generalize valuesOf others first = values at hrest ⊢
        generalize seen'.lookup first = after at hrest ⊢
        -- the field has its value, so no other member may have its name
        cases hrest with
        | nothing => exact .value ha
      · rw [valuesOf_cons_ne (by simpa using hname), ← hadd.lookup_of_ne hname]
        exact hrest

/-- **The members are read, if what each field holds can be.** -/
theorem exists_foldlM_of_taken {members : List (Option String × Tree)} {seen : Members α}
    (hkeys : ∀ m ∈ members, m.1 ≠ none) (h : ∀ name, r.has name = true →
      ∃ got, Taken (read name) (valuesOf members name) (seen.lookup name) got) :
    ∃ seen', members.foldlM (takeMember r read) seen = .ok seen' := by
  induction members generalizing seen with
  | nil => exact ⟨seen, rfl⟩
  | cons m others ih =>
      obtain ⟨hkey, hothers⟩ := List.forall_mem_cons.mp hkeys
      obtain ⟨key, t⟩ := m
      obtain ⟨first, rfl⟩ := Option.ne_none_iff_exists'.mp hkey
      obtain ⟨seen₁, hadd, hfirst⟩ : ∃ seen₁, AddsMember r read seen first t.lexemes seen₁ ∧
          (r.has first = true → valuesOf others first = []) := by
        by_cases hhas : r.has first = true
        · obtain ⟨got, hgot⟩ := h first hhas
          rw [valuesOf_cons_self] at hgot
          generalize hbefore : seen.lookup first = before at hgot
          generalize valuesOf others first = values at hgot ⊢
          cases hgot with
          | value ha => exact ⟨_, .known hhas hbefore ha, fun _ => rfl⟩
        · exact ⟨seen, .unknown (by simpa using hhas), fun hhas' => absurd hhas' hhas⟩
      have hnext : ∀ name, r.has name = true →
          ∃ got, Taken (read name) (valuesOf others name) (seen₁.lookup name) got := by
        intro name hhas
        by_cases hname : first = name
        · subst hname
          rw [hfirst hhas]
          exact ⟨_, .nothing _⟩
        · have hsame := h name hhas
          rwa [valuesOf_cons_ne (by simpa using hname), ← hadd.lookup_of_ne hname] at hsame
      obtain ⟨seen', hrest⟩ := ih hothers hnext
      refine ⟨seen', ?_⟩
      rw [List.foldlM_cons, takeMember_ok.mpr ⟨first, rfl, hadd⟩]
      exact hrest

theorem Taken.unique {read : Reader α} {values : List Tree} {before got got' : Option α}
    (h : Taken read values before got) (h' : Taken read values before got') : got = got' := by
  cases h with
  | nothing =>
      cases h'
      rfl
  | value ha =>
      cases h' with
      | value hb =>
          rw [ha] at hb
          cases hb
          rfl

theorem taken_none_iff {read : Reader α} {values : List Tree} {got : Option α} :
    Taken read values none got ↔ (values = [] ∧ got = none) ∨
      ∃ t a, values = [t] ∧ read t.lexemes = .ok a ∧ got = some a := by
  constructor
  · intro h
    generalize (none : Option α) = before at h ⊢
    cases h with
    | nothing => exact Or.inl ⟨rfl, rfl⟩
    | value ha => exact Or.inr ⟨_, _, rfl, ha, rfl⟩
  · rintro (⟨rfl, rfl⟩ | ⟨t, a, rfl, ha, rfl⟩)
    · exact .nothing none
    · exact .value ha

/-- What an object says of the fields of a record. -/
structure Holds (r : Record) (read : String → Reader α) (members : List (Option String × Tree))
    (fields : String → Option α) : Prop where
  /-- Every key has a text. -/
  keys : ∀ m ∈ members, m.1 ≠ none
  taken : ∀ name, r.has name = true → Taken (read name) (valuesOf members name) none (fields name)
  required : ∀ f ∈ r.fields, f.required = true → fields f.name ≠ none

theorem missing?_eq_none {seen : Members α} :
    r.missing? seen = none ↔ ∀ f ∈ r.fields, f.required = true → seen.lookup f.name ≠ none := by
  simp [Record.missing?, Option.isNone_iff_eq_none]

theorem has_of_mem {f : Field} (hf : f ∈ r.fields) : r.has f.name = true :=
  List.any_eq_true.mpr ⟨f, hf, beq_self_eq_true f.name⟩

/-- What is read passes when nothing is found wrong with it. -/
theorem bind_check_eq_ok {β : Type} {read : Except Refusal β} {check : β → Except Refusal β}
    {b : β} {p : Prop} (hcheck : ∀ c, check c = .ok b ↔ c = b ∧ p) :
    read.bind check = .ok b ↔ read = .ok b ∧ p := by
  cases read with
  | error e => simp [Except.bind]
  | ok c => simp only [Except.bind, Except.ok.injEq, hcheck]

theorem takeObject_eq_ok {members : List (Option String × Tree)} {seen : Members α} :
    takeObject r read members = .ok seen ↔
      members.foldlM (takeMember r read) [] = .ok seen ∧ r.missing? seen = none :=
  bind_check_eq_ok fun got => by grind

theorem holds_of_takeObject {members : List (Option String × Tree)} {seen : Members α}
    (h : takeObject r read members = .ok seen) :
    Holds r read members fun name => seen.lookup name := by
  obtain ⟨hfold, hmissing⟩ := takeObject_eq_ok.mp h
  obtain ⟨hkeys, htaken⟩ := taken_of_foldlM hfold
  exact ⟨hkeys, htaken, missing?_eq_none.mp hmissing⟩

theorem takeObject_of_holds {members : List (Option String × Tree)} {fields : String → Option α}
    (h : Holds r read members fields) :
    ∃ seen, takeObject r read members = .ok seen ∧
      ∀ name, r.has name = true → seen.lookup name = fields name := by
  obtain ⟨seen, hfold⟩ : ∃ seen, members.foldlM (takeMember r read) [] = .ok seen :=
    exists_foldlM_of_taken h.keys fun name hhas => ⟨fields name, h.taken name hhas⟩
  have hsame : ∀ name, r.has name = true → seen.lookup name = fields name := by
    intro name hhas
    exact ((taken_of_foldlM hfold).2 name hhas).unique (h.taken name hhas)
  refine ⟨seen, takeObject_eq_ok.mpr ⟨hfold, missing?_eq_none.mpr ?_⟩, hsame⟩
  intro f hf hrequired
  rw [hsame f.name (has_of_mem hf)]
  exact h.required f hf hrequired

/-! ### Arrays -/

/-- The members that an array of the fields in order stands for. -/
def membersOf (fields : List Field) (elements : List Tree) : List (Option String × Tree) :=
  (fields.zip elements).map fun p => (some p.1.name, p.2)

theorem takeMember_new {seen : Members α} {name : String} (hhas : r.has name = true)
    (hnew : seen.lookup name = none) (t : Tree) :
    takeMember r read seen (some name, t) =
      match read name t.lexemes with
      | .ok a => .ok ((name, a) :: seen)
      | .error e => .error (e.under (.field name)) := by
  cases hvalue : read name t.lexemes <;>
    simp only [takeMember, hnew, Option.isSome_none, Bool.false_eq_true, and_false, if_false,
      addMember, if_pos hhas, hvalue]

theorem readElements_cons (hread : ∀ name, Local (read name)) (seen : Members α) (index : Nat)
    (f : Field) (fields : List Field) (t : Tree) (behind : List Lexeme) :
    readElements read seen index (f :: fields) (t.lexemes ++ behind) =
      match read f.name t.lexemes with
      | .error e => .error (e.under (.index index))
      | .ok a =>
        match behind with
        | .closeBracket :: rest => .ok ((f.name, a) :: seen, rest)
        | .comma :: rest => readElements read ((f.name, a) :: seen) (index + 1) fields rest
        | _ => .error .malformed := by
  rw [readElements, hread f.name _ behind t.isValue_lexemes,
    t.isValue_lexemes.valueLength?_append behind]
  cases read f.name t.lexemes with
  | error e => rfl
  | ok a =>
      have hbehind : (t.lexemes ++ behind).drop t.lexemes.length = behind := List.drop_left
      dsimp only
      generalize (t.lexemes ++ behind).drop t.lexemes.length = rest at hbehind ⊢
      subst hbehind
      rfl

/-- **An array is read like the object that names its elements**, but for the path of a fault. -/
theorem readElements_ok_iff (hread : ∀ name, Local (read name)) {fields : List Field}
    (hknown : ∀ f ∈ fields, r.has f.name = true) (hnodup : (fields.map Field.name).Nodup)
    {elements : List Tree} (hlength : elements.length = fields.length) (hne : elements ≠ [])
    {seen : Members α} (hnew : ∀ f ∈ fields, seen.lookup f.name = none) (index : Nat)
    {seen' : Members α} (rest : List Lexeme) {rest' : List Lexeme} :
    readElements read seen index fields
        ([Lexeme.comma].intercalate (elements.map Tree.lexemes) ++ .closeBracket :: rest) =
        .ok (seen', rest') ↔
      rest' = rest ∧ (membersOf fields elements).foldlM (takeMember r read) seen = .ok seen' := by
  induction fields generalizing elements seen index with
  | nil => exact absurd (List.eq_nil_of_length_eq_zero hlength) hne
  | cons f others ih =>
      obtain ⟨hf, hothers⟩ := List.forall_mem_cons.mp hknown
      obtain ⟨hfirst, hmore⟩ := List.forall_mem_cons.mp hnew
      obtain ⟨hfresh, hrest⟩ := List.nodup_cons.mp hnodup
      obtain ⟨t, ts, rfl⟩ := List.exists_cons_of_ne_nil hne
      have hnext : ∀ a, ∀ g ∈ others, List.lookup g.name ((f.name, a) :: seen) = none := by
        intro a g hg
        have hdiffer : g.name ≠ f.name := by
          intro hsame
          exact hfresh (hsame ▸ List.mem_map_of_mem hg)
        have hbeq : (g.name == f.name) = false := by simpa using hdiffer
        rw [List.lookup_cons, hbeq]
        exact hmore g hg
      have hmembers : membersOf (f :: others) (t :: ts) =
          (some f.name, t) :: membersOf others ts := rfl
      rw [hmembers, List.foldlM_cons, takeMember_new hf hfirst]
      cases ts with
      | nil =>
          obtain rfl : others = [] := List.eq_nil_of_length_eq_zero (by simpa using hlength.symm)
          rw [List.map_singleton, List.intercalate_singleton, readElements_cons hread]
          cases read f.name t.lexemes with
          | error e => simp [bind, Except.bind]
          | ok a => simp [bind, Except.bind, membersOf, pure, Except.pure, and_comm, eq_comm]
      | cons t' more =>
          rw [List.map_cons, List.map_cons, List.intercalate_cons_cons, List.append_assoc,
            List.append_assoc, List.singleton_append, readElements_cons hread]
          cases read f.name t.lexemes with
          | error e => simp [bind, Except.bind]
          | ok a =>
              have hlength' : (t' :: more).length = others.length := Nat.succ.inj hlength
              exact ih hothers hrest hlength' (List.cons_ne_nil _ _) (hnext a) (index + 1)

theorem keys_membersOf (fields : List Field) (elements : List Tree) :
    ∀ m ∈ membersOf fields elements, m.1 ≠ none :=
  List.forall_mem_map.mpr fun _ _ => Option.some_ne_none _

theorem valuesOf_membersOf_of_not_mem {fields : List Field} {name : String}
    (h : name ∉ fields.map Field.name) (elements : List Tree) :
    valuesOf (membersOf fields elements) name = [] := by
  induction fields generalizing elements with
  | nil => rfl
  | cons f others ih =>
      obtain ⟨hf, hothers⟩ := not_or.mp (mt List.mem_cons.mpr h)
      cases elements with
      | nil => rfl
      | cons t ts =>
          have hkey : some f.name ≠ some name := fun hsame => hf (Option.some.inj hsame).symm
          exact (valuesOf_cons_ne hkey t _).trans (ih hothers ts)

/-- The elements are what the fields hold, one for each field. -/
def ListsFields (fields : List Field) (members : List (Option String × Tree))
    (elements : List Tree) : Prop :=
  List.Forall₂ (fun f t => valuesOf members f.name = [t]) fields elements

theorem ListsFields.valuesOf_membersOf {fields : List Field}
    {members : List (Option String × Tree)} {elements : List Tree}
    (h : ListsFields fields members elements) (hnodup : (fields.map Field.name).Nodup) :
    ∀ f ∈ fields, valuesOf (membersOf fields elements) f.name = valuesOf members f.name := by
  induction h with
  | nil => simp
  | @cons f t others ts hf _ ih =>
      obtain ⟨hfresh, hrest⟩ := List.nodup_cons.mp hnodup
      have hmembers : membersOf (f :: others) (t :: ts) =
          (some f.name, t) :: membersOf others ts := rfl
      rw [hmembers]
      refine List.forall_mem_cons.mpr ⟨?_, ?_⟩
      · rw [valuesOf_cons_self, valuesOf_membersOf_of_not_mem hfresh, hf]
      · intro g hg
        have hkey : some f.name ≠ some g.name := by
          intro hsame
          exact hfresh (Option.some.inj hsame ▸ List.mem_map_of_mem hg)
        rw [valuesOf_cons_ne hkey, ih hrest g hg]

theorem ListsFields.exists_value {fields : List Field} {members : List (Option String × Tree)}
    {elements : List Tree} (h : ListsFields fields members elements) :
    ∀ f ∈ fields, ∃ t, valuesOf members f.name = [t] := by
  induction h with
  | nil => simp
  | cons hf _ ih => exact List.forall_mem_cons.mpr ⟨⟨_, hf⟩, ih⟩

theorem shortAt?_eq_none {seen : Members α} : r.shortAt? seen = none ↔
    ∀ f ∈ r.fields, f.requiredInArray = true → seen.lookup f.name ≠ none := by
  simp [Record.shortAt?]

theorem decodeRecord_eq_ok {source : List (Option Char)} {seen : Members α} :
    decodeRecord r read source = .ok seen ↔
      readRecord r read (lexemes source) = .ok (seen, []) := by
  unfold decodeRecord
  cases readRecord r read (lexemes source) with
  | error e => simp
  | ok got =>
      obtain ⟨seen', rest⟩ := got
      cases rest <;> simp

/-- An array is read by its elements, and no field may be left out that must not be. -/
theorem readRecord_array {first : Lexeme} (hfirst : first ≠ .closeBracket) (ls : List Lexeme)
    (got : Members α × List Lexeme) :
    readRecord r read (.openBracket :: first :: ls) = .ok got ↔
      readElements read [] 0 r.fields (first :: ls) = .ok got ∧ r.shortAt? got.1 = none := by
  unfold readRecord
  cases first with
  | closeBracket => exact absurd rfl hfirst
  | _ => exact bind_check_eq_ok fun got => by grind

/-- **An array of all fields in order is read like an object that says the same of them.** -/
theorem decodeRecord_array (hread : ∀ name, Local (read name))
    (hnodup : (r.fields.map Field.name).Nodup) (hne : r.fields ≠ [])
    {members : List (Option String × Tree)} {elements : List Tree}
    (hlists : ListsFields r.fields members elements) {source : List (Option Char)}
    (h : lexemes source = (Tree.array elements).lexemes) {seen : Members α} :
    decodeRecord r read source = .ok seen ↔
      takeObject r read (membersOf r.fields elements) = .ok seen := by
  have hlength : elements.length = r.fields.length := (List.Forall₂.length_eq hlists).symm
  obtain ⟨t, ts, rfl⟩ : ∃ t ts, elements = t :: ts := by
    refine List.exists_cons_of_ne_nil ?_
    rintro rfl
    exact hne (List.eq_nil_of_length_eq_zero hlength.symm)
  obtain ⟨first, tail, htree, hfirst⟩ := t.isValue_lexemes.exists_cons
  have hknown : ∀ f ∈ r.fields, r.has f.name = true := fun _ hf => has_of_mem hf
  have hnew : ∀ f ∈ r.fields, List.lookup f.name ([] : Members α) = none := fun _ _ => rfl
  let body := tail ++ ts.flatMap (fun t => .comma :: t.lexemes) ++ [Lexeme.closeBracket]
  have hbody : [Lexeme.comma].intercalate ((t :: ts).map Tree.lexemes) ++ [.closeBracket] =
      first :: body := by
    rw [List.map_cons, intercalate_cons, htree]
    simp [body, List.flatMap_map]
  have helements : readElements read [] 0 r.fields (first :: body) = .ok (seen, []) ↔
      (membersOf r.fields (t :: ts)).foldlM (takeMember r read) [] = .ok seen := by
    rw [← hbody, readElements_ok_iff hread hknown hnodup hlength (List.cons_ne_nil t ts) hnew 0 []]
    simp
  have hfull : (membersOf r.fields (t :: ts)).foldlM (takeMember r read) [] = .ok seen →
      ∀ f ∈ r.fields, seen.lookup f.name ≠ none := by
    intro hfold f hf
    obtain ⟨value, hvalue⟩ := hlists.exists_value f hf
    have htaken := (taken_of_foldlM hfold).2 f.name (has_of_mem hf)
    rw [hlists.valuesOf_membersOf hnodup f hf, hvalue] at htaken
    generalize seen.lookup f.name = got at htaken ⊢
    cases htaken
    simp
  have hsource : lexemes source = .openBracket :: first :: body := by
    rw [h, Tree.lexemes, arrayLexemes, List.cons_append]
    exact congrArg (Lexeme.openBracket :: ·) hbody
  rw [decodeRecord_eq_ok, hsource, readRecord_array hfirst, helements, takeObject_eq_ok]
  refine and_congr_right fun hfold => ?_
  rw [missing?_eq_none, shortAt?_eq_none]
  exact ⟨fun _ f hf _ => hfull hfold f hf, fun _ f hf _ => hfull hfold f hf⟩

end OrderDesk.Json
