import Mathlib.Data.List.Infix
import SwitchOps.Lib.Regex

/-!
# Redaction of the log

`logging_config.py`: `redact` masks what follows a key word, and then every registered secret. `_DYNAMIC_SECRETS` is a
set, so `redact` is given the order in which it is visited. The steps are written for texts whose characters may carry
more than themselves: `redactCells` runs them on characters that know their place in the message.
-/

namespace SwitchOps.Logging

open Regex

/-- `register_secret` -/
def registerSecret (secrets : List Text) (value : Option Text) : List Text :=
  match value with
  | none => secrets
  | some value => if !value.isEmpty && 4 ≤ value.length then secrets.insert value else secrets

/-- `_DYNAMIC_SECRETS` after some registrations. -/
def registered (values : List (Option Text)) : List Text := values.foldl registerSecret []

/-- What stands for a masked stretch. -/
def redacted : Text := "<redacted>"

/-- `:` or `=`, blanks around it. -/
def assignment : Regex := seqs [.star true space, .chr fun c => c == ':' || c == '=', .star true space]

def quotes (c : Char) : Bool := c == '"' || c == '\''

/-- `_SECRET_PATTERNS`; what the first group reads is kept. -/
def secretPatterns : List Regex := [
  .seq (.group 1 (.seq (litIgnoringCase "password") assignment)) (plus nonSpace),
  .seq
    (.group 1 (seqs [litIgnoringCase "enable", plus space, alts [litIgnoringCase "secret", litIgnoringCase "password"],
      opt (.seq (plus space) (plus digit)), plus space]))
    (plus nonSpace),
  .seq (.group 1 (.seq (litIgnoringCase "secret") assignment)) (plus nonSpace),
  .seq
    (.group 1 (seqs [alts [litIgnoringCase "switchPassword", litIgnoringCase "switchEnableSecret"], opt (.chr quotes),
      assignment, opt (.chr quotes)]))
    (plus (.chr fun c => !(Text.isSpace c || quotes c))),
  .seq lineStart (.seq (.group 1 (seqs [.star true space, litIgnoringCase "description", plus space]))
    (.seq (plus (.chr (· != '\n'))) lineEnd))]

section steps

variable {α : Type} (char : α → Char) (mask : List α)

/-- `pattern.sub(r"\1<redacted>", text)`, for a pattern that matches no empty text: `seen` is the text before, and the
next `skip` characters belong to a match. -/
def subFrom (pattern : Regex) : (skip : Nat) → (seen : Text) → List α → List α
  | _, _, [] => []
  | skip + 1, seen, a :: rest => subFrom pattern skip (char a :: seen) rest
  | 0, seen, a :: rest =>
    match (results pattern ⟨seen, (a :: rest).map char, []⟩).head? with
    | none => a :: subFrom pattern 0 (char a :: seen) rest
    | some m =>
      (a :: rest).take ((m.group 1).getD []).length ++ mask
        ++ subFrom pattern (rest.length - m.rest.length) (char a :: seen) rest

/-- `text.replace(old, "<redacted>")`; the next `skip` characters belong to an occurrence. -/
def replaceFrom (old : Text) : (skip : Nat) → List α → List α
  | _, [] => []
  | skip + 1, _ :: rest => replaceFrom old skip rest
  | 0, a :: rest =>
    if old.isPrefixOf ((a :: rest).map char) then mask ++ replaceFrom old (old.length - 1) rest
    else a :: replaceFrom old 0 rest

/-- The first loop of `redact`. -/
def maskPatterns (text : List α) : List α := secretPatterns.foldl (fun out pattern => subFrom char mask pattern 0 [] out) text

/-- The body of the second loop. -/
def maskSecret (out : List α) (s : Text) : List α :=
  if !s.isEmpty && Text.contains (out.map char) s then replaceFrom char mask s 0 out else out

/-- `redact`, for secrets visited in the given order. -/
def redactWith (order : List Text) (text : List α) : List α :=
  if text.isEmpty then text else order.foldl (maskSecret char mask) (maskPatterns char mask text)

end steps

/-- `redact` -/
def redact (order : List Text) (text : Text) : Text := redactWith id redacted order text

/-! ## Where the characters come from -/

/-- A character and its place in the message. -/
abbrev Cell := Char × Option Nat

def source (message : Text) : List Cell := message.zipIdx.map fun p => (p.1, some p.2)

def maskCells : List Cell := redacted.map fun c => (c, none)

/-- `redact` on the characters of a message with their places. -/
def redactCells (order : List Text) (message : Text) : List Cell := redactWith (·.1) maskCells order (source message)

/-- The message after the first loop. -/
def patterned (message : Text) : List Cell := maskPatterns (·.1) maskCells (source message)

/-! ## Complete redaction -/

/-- The secret stands in the text from a place on. -/
def OccursAt (text secret : Text) (q : Nat) : Prop := secret <+: text.drop q

instance (text secret : Text) (q : Nat) : Decidable (OccursAt text secret q) := inferInstanceAs (Decidable (_ <+: _))

/-- Whatever the order is, no secret is left, no character of an occurrence in the message is left, and the result is
the same. -/
structure Redacts (secrets : List Text) (message : Text) : Prop where
  absent : ∀ order, order.Perm secrets → ∀ s ∈ secrets, ¬s <:+: redact order message
  masked : ∀ order, order.Perm secrets → ∀ s ∈ secrets, ∀ q, OccursAt message s q → ∀ p, q ≤ p → p < q + s.length →
    ∀ cell ∈ redactCells order message, cell.2 ≠ some p
  unordered : ∀ order order', order.Perm secrets → order'.Perm secrets → redact order message = redact order' message

/-- A secret that a mask is no part of, and that is no part of a mask. -/
structure Safe (s : Text) : Prop where
  opening : '<' ∉ s
  closing : '>' ∉ s
  inside : ¬s <:+: ("redacted" : Text)

instance (s : Text) : Decidable (Safe s) :=
  decidable_of_iff ('<' ∉ s ∧ '>' ∉ s ∧ ¬s <:+: ("redacted" : Text))
    ⟨fun h => ⟨h.1, h.2.1, h.2.2⟩, fun h => ⟨h.opening, h.closing, h.inside⟩⟩

/-- The places at which `str.replace` replaces. -/
def picksFrom (old : Text) : (skip i : Nat) → Text → List Nat
  | _, _, [] => []
  | skip + 1, i, _ :: rest => picksFrom old skip (i + 1) rest
  | 0, i, c :: rest =>
    if old.isPrefixOf (c :: rest) then i :: picksFrom old (old.length - 1) (i + 1) rest else picksFrom old 0 (i + 1) rest

def picks (text old : Text) : List Nat := picksFrom old 0 0 text

/-- The secrets do not get into each other's way: in the message after the first loop, the places at which one secret
would be replaced are clear of those of the others, and all characters of the secrets in the message belong to such a
place if the first loop has not masked them. -/
structure Separate (secrets : List Text) (message : Text) : Prop where
  apart : ∀ s ∈ secrets, ∀ t ∈ secrets, s ≠ t →
    ∀ i ∈ picks ((patterned message).map (·.1)) s, ∀ j ∈ picks ((patterned message).map (·.1)) t,
      i + s.length ≤ j ∨ j + t.length ≤ i
  covered : ∀ s ∈ secrets, ∀ q, OccursAt message s q → ∀ p, q ≤ p → p < q + s.length →
    ∀ k c, (patterned message)[k]? = some (c, some p) →
      ∃ t ∈ secrets, ∃ i ∈ picks ((patterned message).map (·.1)) t, i ≤ k ∧ k < i + t.length

end SwitchOps.Logging
