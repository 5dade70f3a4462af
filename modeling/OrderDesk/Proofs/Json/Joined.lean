/-
Two texts that are put together.

A text is cut into lexemes character by character, so the lexemes of two texts that are put
together are those of the first and then those of the second, if the seam does not run through
a lexeme.  The reader is between two lexemes at the seam, or at the end of a number that does not
go on; in every other place the first text would have ended in a lexeme that is none.
-/
import OrderDesk.Json.Lexeme

namespace OrderDesk.Json

open OrderDesk.Text

/-! ### What has been finished stays -/

/-- The state of the reader with more lexemes finished before all others. -/
def withFinished (more : List Lexeme) (state : Place × List Lexeme) : Place × List Lexeme :=
  (state.1, state.2 ++ more)

/-- The reader never looks at the lexemes that it has finished. -/
theorem begin_append (c : Option Char) (done more : List Lexeme) :
    begin c (done ++ more) = withFinished more (begin c done) := by
  cases c with
  | none => rfl
  | some c =>
      simp only [begin, apply_ite (withFinished more)]
      rfl

theorem leave_append (part : NumberPart) (n : Number) (c : Option Char) (done more : List Lexeme) :
    leave part n c (done ++ more) = withFinished more (leave part n c done) := by
  simp only [leave, apply_ite (withFinished more), ← begin_append]
  rfl

theorem step_append (place : Place) (c : Option Char) (done more : List Lexeme) :
    step (place, done ++ more) c = withFinished more (step (place, done) c) := by
  cases place with
  | between => exact begin_append c done more
  | dead => rfl
  | word rest lexeme =>
      cases rest with
      | nil => exact begin_append c (lexeme :: done) more
      | cons w rest =>
          simp only [step, apply_ite (withFinished more)]
          rfl
  | string s =>
      simp only [step, apply_ite (withFinished more)]
      rfl
  | escape s =>
      simp only [step, apply_ite (withFinished more)]
      cases c.bind escaped? <;> rfl
  | hex s digits value =>
      simp only [step]
      cases c.bind hexValue? with
      | none => rfl
      | some d =>
          simp only [apply_ite (withFinished more)]
          rfl
  | number part n =>
      simp only [step]
      cases c.bind (extend part n) with
      | none => exact leave_append part n c done more
      | some next => rfl

theorem foldl_step_append (cs : List (Option Char)) (place : Place) (done more : List Lexeme) :
    cs.foldl step (place, done ++ more) = withFinished more (cs.foldl step (place, done)) := by
  induction cs generalizing place done with
  | nil => rfl
  | cons c rest ih =>
      rw [List.foldl_cons, List.foldl_cons, step_append, withFinished, ih]

theorem finish_append (place : Place) (done more : List Lexeme) :
    finish (place, done ++ more) = finish (place, done) ++ more := by
  cases place with
  | number part n =>
      simp only [finish]
      by_cases hpart : part.isEnd = true <;> simp [hpart]
  | _ => rfl

/-- What is read from between two lexemes on is put behind what has been read before. -/
theorem finish_foldl_between (cs : List (Option Char)) (done : List Lexeme) :
    finish (cs.foldl step (.between, done)) = (lexemes cs).reverse ++ done := by
  have hsplit := foldl_step_append cs .between [] done
  rw [List.nil_append] at hsplit
  rw [hsplit, withFinished, finish_append, lexemes, List.reverse_reverse]

/-! ### Where a text stops being JSON -/

/-- A text that has stopped being JSON says so. -/
def Strayed (state : Place × List Lexeme) : Prop :=
  state.1 = .dead → state.2.head? = some .stray

theorem strayed_of_ne {place : Place} (h : place ≠ .dead) (done : List Lexeme) :
    Strayed (place, done) :=
  fun hdead => absurd hdead h

theorem strayed_stray (done : List Lexeme) : Strayed (.dead, .stray :: done) := fun _ => rfl

theorem strayed_ite {p : Prop} [Decidable p] {x y : Place × List Lexeme} (hx : Strayed x)
    (hy : Strayed y) : Strayed (if p then x else y) := by
  by_cases hp : p
  · rw [if_pos hp]
    exact hx
  · rw [if_neg hp]
    exact hy

theorem strayed_begin (c : Option Char) (done : List Lexeme) : Strayed (begin c done) := by
  cases c with
  | none => exact strayed_stray done
  | some c =>
      unfold begin
      repeat' refine strayed_ite ?_ ?_
      all_goals first | exact strayed_stray done | exact strayed_of_ne (by simp) _

theorem strayed_step {state : Place × List Lexeme} (h : Strayed state) (c : Option Char) :
    Strayed (step state c) := by
  unfold step
  split
  · exact strayed_begin c _
  · exact h
  · exact strayed_begin c _
  · exact strayed_ite (strayed_ite (strayed_of_ne (by simp) _) (strayed_of_ne (by simp) _))
      (strayed_stray _)
  · exact strayed_ite (strayed_of_ne (by simp) _) (strayed_ite (strayed_of_ne (by simp) _)
      (strayed_ite (strayed_stray _) (strayed_of_ne (by simp) _)))
  · refine strayed_ite (strayed_of_ne (by simp) _) ?_
    split
    · exact strayed_of_ne (by simp) _
    · exact strayed_stray _
  · split
    · exact strayed_ite (strayed_of_ne (by simp) _) (strayed_of_ne (by simp) _)
    · exact strayed_stray _
  · split
    · exact strayed_of_ne (by simp) _
    · exact strayed_ite (strayed_begin c _) (strayed_stray _)

theorem strayed_foldl (cs : List (Option Char)) : Strayed (cs.foldl step (.between, [])) := by
  have hall : ∀ state, Strayed state → Strayed (cs.foldl step state) := by
    induction cs with
    | nil => exact fun state h => h
    | cons c rest ih => exact fun state h => ih _ (strayed_step h c)
  exact hall _ (by simp [Strayed])

/-! ### The seam -/

/-- A character that a number may go on with. -/
def ContinuesNumber (c : Char) : Prop := isDigit c = true ∨ c = '.' ∨ c = 'e' ∨ c = 'E'

/-- A number ends in front of everything that it may not go on with. -/
theorem step_after_number {part : NumberPart} (hpart : part.isEnd = true) (n : Number)
    (done : List Lexeme) {c : Option Char} (hc : ∀ d, c = some d → ¬ContinuesNumber d) :
    step (.number part n, done) c = begin c (.number n.inOrder :: done) := by
  cases c with
  | none =>
      simp [step, leave, hpart]
  | some c =>
      have hno := hc c rfl
      simp only [ContinuesNumber, not_or] at hno
      obtain ⟨hdigit, hpoint, he, hE⟩ := hno
      have hextend : extend part n c = none := by
        cases part <;> simp [extend, NumberPart.isEnd, hdigit, hpoint, he, hE] at hpart ⊢
      simp [step, hextend, leave, hpart, hdigit]

/-- Whoever has finished a lexeme that another text does not go on with reads that text as if it
stood alone. -/
theorem finish_foldl {state : Place × List Lexeme} (hstrayed : Strayed state) {l : Lexeme}
    (hlast : (finish state).head? = some l) (hstray : l ≠ .stray) {b : List (Option Char)}
    (hnumber : ∀ n, l = .number n → ∀ c, b.head? = some (some c) → ¬ContinuesNumber c) :
    finish (b.foldl step state) = (lexemes b).reverse ++ finish state := by
  obtain ⟨place, done⟩ := state
  cases place with
  | between => exact finish_foldl_between b done
  | dead =>
      have hdead := hstrayed rfl
      rw [show finish (Place.dead, done) = done from rfl, hdead] at hlast
      exact absurd (Option.some.inj hlast).symm hstray
  | number part n =>
      by_cases hpart : part.isEnd = true
      · have hfinish : finish (.number part n, done) = .number n.inOrder :: done := if_pos hpart
        rw [hfinish] at hlast ⊢
        cases b with
        | nil => exact hfinish
        | cons c rest =>
            rw [List.foldl_cons, step_after_number hpart]
            · exact finish_foldl_between (c :: rest) (.number n.inOrder :: done)
            · intro d hd
              exact hnumber _ (Option.some.inj hlast).symm d (congrArg some hd)
      · rw [show finish (.number part n, done) = .stray :: done from if_neg hpart] at hlast
        exact absurd (Option.some.inj hlast).symm hstray
  -- a word or a string that is not complete
  | _ => exact absurd (Option.some.inj hlast).symm hstray

/-- **The lexemes of two texts that are put together.**  The first may neither have stopped being
JSON nor end in a number that the second goes on with. -/
theorem lexemes_append {a b : List (Option Char)} {l : Lexeme}
    (hlast : (lexemes a).getLast? = some l) (hstray : l ≠ .stray)
    (hnumber : ∀ n, l = .number n → ∀ c, b.head? = some (some c) → ¬ContinuesNumber c) :
    lexemes (a ++ b) = lexemes a ++ lexemes b := by
  rw [lexemes, List.getLast?_reverse] at hlast
  rw [lexemes, List.foldl_append, finish_foldl (strayed_foldl a) hlast hstray hnumber,
    List.reverse_append, List.reverse_reverse]
  rfl

end OrderDesk.Json
