/-
The strength of a secret.

A secret has to be long, it must not look like a text that was meant to be replaced,
and its characters must differ enough.  The last is measured by the entropy, a sum
over the distinct characters that is worked out in floating point numbers.  Such a sum
depends on the order of its terms, and the characters are taken out of a table that
keeps them in an order of its own; and how exact a logarithm is differs from platform
to platform.  So what a secret is worth may differ a little from one judgement to the
next.  A `Gauge` is what one judgement goes by.
-/
import OrderDesk.Settings.Error
import OrderDesk.Text.Places

namespace OrderDesk.Secret

open OrderDesk.Text

/-! ### Placeholders -/

/-- The parts that give a placeholder away, in the order in which they are looked for. -/
def placeholders : List String :=
  ["your-", "changeme", "replace", "placeholder", "example", "secret", "password", "xxx", "todo",
   "fixme", "insert", "enter-", "put-your", "add-your"]

/-- A character in small letters, as far as ASCII letters come of it.  Two characters outside
ASCII have an ASCII letter in their small form. -/
def loweredChar (c : Char) : List Char :=
  if c = '\u212A' then ['k']
  else if c = '\u0130' then ['i', '\u0307']
  else [lowerAscii c]

/-- The first part that gives a placeholder away. -/
def placeholderIn? (secret : String) : Option String :=
  let lowered := secret.toList.flatMap loweredChar
  placeholders.find? fun part => occursIn part.toList lowered

/-! ### Entropy -/

/-- What the entropy of a text depends on beside the text. -/
structure Gauge where
  /-- The logarithm to the base two. -/
  log2 : Float → Float
  /-- The order in which a table gives back the characters that were put into it. -/
  order : List Char → List Char
  /-- No character is lost or made up, and none is given back twice. -/
  perm : ∀ cs, (order cs).Perm cs

/-- The logarithm of this platform, and the characters in the order of the text. -/
def Gauge.plain : Gauge where
  log2 := Float.log2
  order cs := cs
  perm cs := .refl cs

/-- The share of the text that a character makes up. -/
def share (cs : List Char) (c : Char) : Float := (cs.count c).toFloat / cs.length.toFloat

/-- What a character with this share adds to the entropy. -/
def Gauge.term (gauge : Gauge) (p : Float) : Float := -p * gauge.log2 p

/-- The entropy of a text, in bits for each character.  The sum begins at the zero with a sign,
which adding leaves as it is. -/
def Gauge.entropy (gauge : Gauge) (cs : List Char) : Float :=
  if cs = [] then 0.0
  else ((gauge.order cs.eraseDups).map fun c => gauge.term (share cs c)).foldl (· + ·) (-0.0)

/-- A secret has at least this entropy. -/
def minEntropy : Float := 3.3

/-- The entropy as it is shown, if it is too low. -/
def Gauge.shortfall? (gauge : Gauge) (cs : List Char) : Option String :=
  let entropy := gauge.entropy cs
  if entropy < minEntropy then some (twoPlaces entropy) else none

/-! ### The judgement -/

/-- A secret has at least this many bytes. -/
def minBytes : Nat := 32

/-- What is said of a secret whose entropy is too low. -/
def shortfallText (shown : String) : String :=
  "entropy too low (" ++ shown ++ " bits/char, need >= 3.3). Use a randomly generated key."

/-- Judge the secret with this name. -/
def check (gauge : Gauge) (name secret : String) : Except SettingsError Unit :=
  if secret.utf8ByteSize < minBytes then
    .error (.insecure name
      ("must be at least 32 characters (got " ++ natText secret.utf8ByteSize ++ ")"))
  else
    match placeholderIn? secret with
    | some part =>
      .error (.insecure name ("appears to be a placeholder (contains '" ++ part ++ "')"))
    | none =>
      match gauge.shortfall? secret.toList with
      | some shown => .error (.insecure name (shortfallText shown))
      | none => .ok ()

end OrderDesk.Secret
