import SpaceApp.Foundation.JsText

/-! JavaScript regular expressions: a backtracking matcher with captures.

A subject is a list of symbols: code units, or code points for a pattern with the
`u` flag. No pattern here has a group inside a repetition, so groups are never reset.
-/

set_option autoImplicit false

namespace SpaceApp.Foundation

inductive Regex where
  | nothing
  | symbol (accepts : Nat → Bool)
  | seq (first second : Regex)
  | alt (first second : Regex)
  | star (body : Regex)
  | group (index : Nat) (body : Regex)
  | notAhead (body : Regex)
  /-- `^` and `$` without the `m` flag, `(?:^|(?<=\n))` with it. -/
  | start
  | lineStart
  | finish
  | boundary (word : Nat → Bool)

namespace Regex

/-- Where the matcher stands: what it has passed, last symbol first, and what is left. -/
structure Cursor where
  passed : List Nat
  left : List Nat
  groups : List (Nat × List Nat) := []

def Cursor.group (cursor : Cursor) (index : Nat) : Option (List Nat) := cursor.groups.lookup index

def isLineEnd (symbol : Nat) : Bool :=
  symbol == 0x0A || symbol == 0x0D || symbol == 0x2028 || symbol == 0x2029

def isWord (symbol : Nat) : Bool :=
  (0x61 ≤ symbol && symbol ≤ 0x7A) || (0x41 ≤ symbol && symbol ≤ 0x5A) ||
    (0x30 ≤ symbol && symbol ≤ 0x39) || symbol == 0x5F

/-- As many passes of the body as possible, each consuming something. -/
def iterate (body : (Cursor → Option Cursor) → Cursor → Option Cursor) (next : Cursor → Option Cursor) :
    Nat → Cursor → Option Cursor
  | 0, cursor => next cursor
  | passes + 1, cursor =>
      (body (fun reached =>
          if reached.left.length < cursor.left.length then iterate body next passes reached else none)
        cursor).orElse fun _ => next cursor

def run : Regex → (Cursor → Option Cursor) → Cursor → Option Cursor
  | nothing, next, cursor => next cursor
  | symbol accepts, next, cursor =>
      match cursor.left with
      | [] => none
      | found :: left =>
          if accepts found then next { cursor with passed := found :: cursor.passed, left } else none
  | seq first second, next, cursor => run first (run second next) cursor
  | alt first second, next, cursor => (run first next cursor).orElse fun _ => run second next cursor
  | star body, next, cursor => iterate (run body) next cursor.left.length cursor
  | group index body, next, cursor =>
      run body (fun reached =>
          let matched := cursor.left.take (cursor.left.length - reached.left.length)
          next { reached with groups := (index, matched) :: reached.groups }) cursor
  | notAhead body, next, cursor => if (run body some cursor).isSome then none else next cursor
  | start, next, cursor => if cursor.passed = [] then next cursor else none
  | lineStart, next, cursor => if cursor.passed.head?.all isLineEnd then next cursor else none
  | finish, next, cursor => if cursor.left = [] then next cursor else none
  | boundary word, next, cursor =>
      if cursor.passed.head?.any word != cursor.left.head?.any word then next cursor else none

/-- A match: the start of the subject before it, what it matched, and the cursor behind it. -/
structure Match where
  before : List Nat
  matched : List Nat
  cursor : Cursor

def matchAt (regex : Regex) (passed left : List Nat) : Option Match :=
  (run regex some { passed, left }).map fun cursor =>
    { before := passed.reverse, matched := left.take (left.length - cursor.left.length), cursor }

def execFrom (regex : Regex) : List Nat → List Nat → Option Match
  | passed, [] => matchAt regex passed []
  | passed, head :: left =>
      (matchAt regex passed (head :: left)).orElse fun _ => execFrom regex (head :: passed) left

def exec (regex : Regex) (subject : List Nat) : Option Match := execFrom regex [] subject

def test (regex : Regex) (subject : List Nat) : Bool := (exec regex subject).isSome

/-- `matchAll`: each match starts where the one before ended, a symbol later after an empty one. -/
def allFrom (regex : Regex) : Nat → List Nat → List Nat → List Match
  | 0, _, _ => []
  | passes + 1, passed, left =>
      match execFrom regex passed left with
      | none => []
      | some found =>
          found ::
            if found.matched = [] then
              match found.cursor.left with
              | [] => []
              | head :: left => allFrom regex passes (head :: found.cursor.passed) left
            else allFrom regex passes found.cursor.passed found.cursor.left

def all (regex : Regex) (subject : List Nat) : List Match :=
  allFrom regex (subject.length + 1) [] subject

def replaceFrom (subject : List Nat) (replacement : Match → List Nat) : Nat → List Match → List Nat
  | place, [] => subject.drop place
  | place, found :: rest =>
      (subject.take found.before.length).drop place ++ replacement found ++
        replaceFrom subject replacement (found.before.length + found.matched.length) rest

def replaceAll (regex : Regex) (subject : List Nat) (replacement : Match → List Nat) : List Nat :=
  replaceFrom subject replacement 0 (all regex subject)

def plus (body : Regex) : Regex := seq body (star body)

def opt (body : Regex) : Regex := alt body nothing

def times (count : Nat) (body : Regex) : Regex := (List.replicate count body).foldr seq nothing

def concat (parts : List Regex) : Regex := parts.foldr seq nothing

def anyOf : List Regex → Regex
  | [] => symbol fun _ => false
  | [only] => only
  | first :: rest => alt first (anyOf rest)

def one (code : Char) : Regex := symbol fun found => found == code.toNat

def word (text : String) : Regex := concat (text.toList.map one)

def isUpper (symbol : Nat) : Bool := 0x41 ≤ symbol && symbol ≤ 0x5A

/-- The `i` flag on an ASCII pattern: no other symbol folds to an ASCII letter. -/
def lower (symbol : Nat) : Nat := if isUpper symbol then symbol + 0x20 else symbol

def anyCase (text : String) : Regex :=
  concat (text.toList.map fun code => symbol fun found => lower found == lower code.toNat)

def anyCaseWords (texts : List String) : Regex := anyOf (texts.map anyCase)

def isDigit (symbol : Nat) : Bool := 0x30 ≤ symbol && symbol ≤ 0x39

def isLetter (symbol : Nat) : Bool :=
  (0x61 ≤ symbol && symbol ≤ 0x7A) || (0x41 ≤ symbol && symbol ≤ 0x5A)

def isOneOf (text : String) (symbol : Nat) : Bool := text.toList.any fun code => code.toNat == symbol

def digit : Regex := symbol isDigit
def digits : Regex := plus digit
def space : Regex := symbol isSpace
def spaces : Regex := star space
def asciiBoundary : Regex := boundary isWord

end Regex

def symbolsOf (text : String) : List Nat := text.toList.flatMap fun c => (unitsOf c.toNat).map UInt16.toNat

end SpaceApp.Foundation
