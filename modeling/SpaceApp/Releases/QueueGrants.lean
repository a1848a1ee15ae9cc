import SpaceApp.Foundation.JsText
import SpaceApp.Foundation.Regex
import SpaceApp.Gateway.BoundedMap

/-! Grants for the merge queue's operator-only commands (`queue-operator-grants.ts`).

A text is its code units. The state file is replaced whole; its MACs come from a parameter.
-/

set_option autoImplicit false

namespace SpaceApp.Releases

open SpaceApp.Foundation SpaceApp.Gateway

abbrev Text := List Nat

namespace Patterns

open Regex

/-- The `i` flag on Greek letters: the letters with one upper case. -/
def greekUpper (code : Nat) : Nat :=
  if code = 0x3C2 then 0x3A3
  else if 0x3B1 ≤ code ∧ code ≤ 0x3C9 then code - 0x20
  else ([(0x3AC, 0x386), (0x3AD, 0x388), (0x3AE, 0x389), (0x3AF, 0x38A), (0x3CC, 0x38C), (0x3CD, 0x38E), (0x3CE, 0x38F),
    (0x3D0, 0x392), (0x3D1, 0x398), (0x3D5, 0x3A6), (0x3D6, 0x3A0), (0x3F0, 0x39A), (0x3F1, 0x3A1), (0x3F5, 0x395),
    (0xB5, 0x39C), (0x345, 0x399), (0x1FBE, 0x399)].lookup code).getD code

def greekLetter (code : Char) : Regex := symbol fun found => greekUpper found == greekUpper code.toNat

def greek (text : String) : Regex := concat (text.toList.map greekLetter)

def quote : Regex := symbol fun found => found == 0x27 || found == 0x2019

def NEGATED_RELEASE : Regex := concat [
  asciiBoundary,
  anyOf [anyCase "never", anyCase "not", anyCase "no", concat [anyCase "don", quote, anyCase "t"], anyCase "do not",
    anyCase "without"],
  plus space,
  opt (seq (anyCaseWords ["use", "pass", "run", "add"]) (plus space)),
  anyOf [
    concat [anyCase "--target", plus space, anyCase "stable"],
    anyCase "--hotfix",
    concat [anyCase "space-queue", plus space,
      anyCaseWords ["promote", "default-target", "resume", "approve", "pause"]]],
  asciiBoundary]

def hexDigit : Regex := symbol fun found => isDigit found || (0x61 ≤ lower found && lower found ≤ 0x66)

def approveCommand : Regex := concat [
  anyCase "space-queue", plus space, anyCase "approve", plus space,
  group 1 (concat [anyCase "q-", times 8 digit, one '-', times 6 digit, one '-', times 4 hexDigit]),
  asciiBoundary]

def promoteCommand : Regex := concat [anyCase "space-queue", plus space, anyCase "promote", asciiBoundary]

def PROMOTE_WORD : Regex := alt
  (concat [asciiBoundary, anyCase "promote", asciiBoundary])
  (concat [greek "προ", alt (greekLetter 'ω') (greekLetter 'ώ'), greekLetter 'θ'])

def breakSymbol : Regex := symbol fun found =>
  isSpace found || isOneOf ",.!;:?\"'()" found || found == 0xAB || found == 0xBB

def NEGATION : Regex := alt
  (concat [
    asciiBoundary,
    group 1 (anyOf [anyCase "no", anyCase "not", anyCase "never", concat [anyCase "don", opt quote, anyCase "t"], anyCase "wait"]),
    asciiBoundary])
  (concat [
    alt start breakSymbol,
    group 2 (anyOf ((["μη", "μην", "όχι", "οχι", "δεν", "ποτέ", "ποτε", "περίμενε", "περιμενε"] : List String).map greek)),
    -- what follows is looked at, not passed
    notAhead (notAhead (alt breakSymbol finish))])

def TERMINAL_CONTROL : Regex := anyOf [
  concat [
    symbol (· == 0x1B),
    one '[',
    star (symbol fun found => isDigit found || isOneOf ";?" found),
    star (symbol fun found => 0x20 ≤ found && found ≤ 0x2F),
    symbol fun found => 0x40 ≤ found && found ≤ 0x7E],
  seq (symbol (· == 0x1B)) (symbol fun found => 0x40 ≤ found && found ≤ 0x5F),
  symbol fun found => found ≤ 0x08 || (0x0B ≤ found && found ≤ 0x1F) || found == 0x7F]

def COMMAND_FLAG : Regex := concat [
  group 1 (alt start space), anyCase "--", symbol fun found => isLetter found,
  star (symbol fun found => isWord found || found == 0x2D)]

end Patterns

/-- The text without release commands it names only to forbid them. -/
def withoutNegatedRelease (text : Text) : Text := Patterns.NEGATED_RELEASE.replaceAll text fun _ => []

def promoteOp : Text := symbolsOf "promote"

/-- `promote`, or `approve:` and the ticket. -/
def queueOperatorOp (raw : Text) : Option Text :=
  let text := withoutNegatedRelease raw
  match (Patterns.approveCommand.exec text).bind fun found => found.cursor.group 1 with
  | some ticket => some (symbolsOf "approve:" ++ ticket)
  | none => if Patterns.promoteCommand.test text then some promoteOp else none

/-- None where the line does not ask to promote; else the negation that withholds the grant, if any. -/
def promoteLineVerdict (raw : Text) : Option (Option Text) :=
  let line := Patterns.TERMINAL_CONTROL.replaceAll raw fun _ => []
  if Patterns.PROMOTE_WORD.test line then
    let spoken := Patterns.COMMAND_FLAG.replaceAll line fun found => (found.cursor.group 1).getD []
    some ((Patterns.NEGATION.exec spoken).map fun found => ((found.cursor.group 1).orElse fun _ => found.cursor.group 2).getD [])
  else none

def PENDING_MS : ℤ := 30 * 60000

structure Held where
  op : Text
  by_ : Text
  until_ : ℤ
  deriving DecidableEq

/-- Where the operator in person submitted a line. -/
inductive OperatorLineSource where
  | panePrompt | localComposer | paneBoard
  deriving DecidableEq

def OperatorLineSource.text : OperatorLineSource → String
  | .panePrompt => "pane-prompt"
  | .localComposer => "local-composer"
  | .paneBoard => "pane-board"

structure PromoteLine where
  at_ : ℤ
  negation : Option Text
  usedAt : Option ℤ

/-- What was authorized, refused and taken. -/
inductive Entry where
  | line (pane : String) (negated : Bool)
  | authorized (pane : String) (op : Text) (server : Bool) (at_ : ℤ)
  | took (pane : String) (op : Text) (at_ : ℤ)
  deriving DecidableEq

/-- The deployment: its session secret, whether it has a state file, and the MAC of a held grant. -/
structure Deployment where
  signingSecret : String
  stateFile : Bool
  heldMac : String → String → Held → String

structure SavedState where
  pending : String → Option (Held × String)
  lines : BoundedMap PromoteLine 1000

/-- The process, its state file, and what happened, newest first, which no step reads. -/
structure Grants where
  pending : String → Option Held := fun _ => none
  promoteLines : BoundedMap PromoteLine 1000 := BoundedMap.empty
  typedLines : String → Text := fun _ => []
  file : Option SavedState := none
  log : List Entry := []

section

variable (deployment : Deployment)

def saveState (grants : Grants) (now : ℤ) : Grants :=
  if deployment.stateFile = false ∨ deployment.signingSecret = "" then grants
  else
    { grants with
      file := some {
        pending := fun pane => ((grants.pending pane).filter fun held => now ≤ held.until_).map fun held =>
          (held, deployment.heldMac deployment.signingSecret pane held)
        lines := grants.promoteLines } }

/-- What a new process finds in its state file: the grants whose MAC is theirs. -/
def loadState (file : Option SavedState) : Grants :=
  match file with
  | none => {}
  | some saved =>
    if deployment.stateFile = false ∨ deployment.signingSecret = "" then { file }
    else {
      file
      pending := fun pane => ((saved.pending pane).filter fun entry =>
        entry.2 = deployment.heldMac deployment.signingSecret pane entry.1).map (·.1)
      promoteLines := saved.lines }

/-- The server is about to have the pane run the text on the operator's authorization. -/
def allowPaneQueueCommand (pane : String) (text by_ : Text) (only : Bool) (now : ℤ) (grants : Grants) : Grants :=
  match queueOperatorOp text with
  | none => grants
  | some op =>
    -- `only` is promote
    if only ∧ op ≠ promoteOp then grants
    else
      saveState deployment { grants with
        pending := Function.update grants.pending pane (some { op, by_, until_ := now + PENDING_MS })
        log := .authorized pane op true now :: grants.log } now

def noteOperatorPromoteLine (pane : String) (line : Text) (source : OperatorLineSource) (now : ℤ) (grants : Grants) : Grants :=
  match promoteLineVerdict line with
  | none => grants
  | some negation =>
    let promoteLines := grants.promoteLines.set pane { at_ := now, negation, usedAt := none }
    match negation with
    | some _ => saveState deployment { grants with promoteLines, log := .line pane true :: grants.log } now
    | none =>
      saveState deployment { grants with
        promoteLines
        pending := Function.update grants.pending pane
          (some { op := promoteOp, by_ := symbolsOf ("operator:" ++ source.text), until_ := now + PENDING_MS })
        log := .authorized pane promoteOp false now :: .line pane false :: grants.log } now

def typedLine (line : Text) (code : Nat) : Text :=
  if code = 0x7F ∨ code = 0x08 then line.dropLast
  else if code = 0x03 ∨ code = 0x15 then []
  else
    let longer := line ++ (unitsOf code).map UInt16.toNat
    longer.drop (longer.length - 2000)

/-- Keystrokes in a pane: each line that return submits. -/
def typeKeys (pane : String) (now : ℤ) : List Nat → Text → Grants → Grants
  | [], line, grants => { grants with typedLines := Function.update grants.typedLines pane line }
  | code :: rest, line, grants =>
    if code = 0x0D then typeKeys pane now rest [] (noteOperatorPromoteLine deployment pane line .panePrompt now grants)
    else typeKeys pane now rest (typedLine line code) grants

def noteOperatorPaneInput (pane : String) (data : List Nat) (now : ℤ) (grants : Grants) : Grants :=
  typeKeys deployment pane now data (grants.typedLines pane) grants

/-- The pane's grant for the operation, once: whether one was signed. -/
def takePaneQueueGrant (pane : String) (op : Text) (now : ℤ) (grants : Grants) : Bool × Grants :=
  match grants.pending pane with
  | none => (false, grants)
  | some held =>
    if held.op ≠ op ∨ held.until_ < now then (false, grants)
    else
      let promoteLines :=
        if (symbolsOf "operator:").isPrefixOf held.by_ then
          match grants.promoteLines.get pane with
          | none => grants.promoteLines
          | some line => grants.promoteLines.replace pane { line with usedAt := some now }
        else grants.promoteLines
      let taken := saveState deployment { grants with
        pending := Function.update grants.pending pane none
        promoteLines } now
      -- signing throws without a secret
      if (js deployment.signingSecret).length < 16 then (false, taken)
      else (true, { taken with log := .took pane op now :: taken.log })

inductive GrantEvent where
  | allows (pane : String) (text by_ : Text) (only : Bool) (now : ℤ)
  | submits (pane : String) (line : Text) (source : OperatorLineSource) (now : ℤ)
  | types (pane : String) (data : List Nat) (now : ℤ)
  | takes (pane : String) (op : Text) (now : ℤ)
  | restarts
  deriving DecidableEq

def Grants.step (grants : Grants) : GrantEvent → Grants
  | .allows pane text by_ only now => allowPaneQueueCommand deployment pane text by_ only now grants
  | .submits pane line source now => noteOperatorPromoteLine deployment pane line source now grants
  | .types pane data now => noteOperatorPaneInput deployment pane data now grants
  | .takes pane op now => (takePaneQueueGrant deployment pane op now grants).2
  | .restarts => { loadState deployment grants.file with log := grants.log }

end

end SpaceApp.Releases
