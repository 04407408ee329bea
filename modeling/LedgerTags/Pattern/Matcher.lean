import LedgerTags.Pattern.CharTest
import LedgerTags.Pattern.Reader

/-!
# Matching

A pattern is prepared as a list of steps in which options are resolved, and is then matched by
backtracking. A step takes a place in a text and a continuation, and returns the first success of
the continuation over the ways in which the step can match, in the order of preference. A repeat
that may go on without bound stops when a turn has taken no character.

The recursion follows the tree; only the turns of an unbounded repeat are counted, by the characters
that are left.
-/

namespace LedgerTags.Pattern

/-- A prepared part of a pattern. -/
inductive Step where
  | char (t : CharTest)
  | anchor (ascii multiline : Bool) (a : Anchor)
  | capture (group : Nat) (body : List Step)
  | sequence (body : List Step)
  | atomic (body : List Step)
  /-- What has to follow here, or `back` characters before here, or must not. -/
  | look (back : Nat) (negated : Bool) (body : List Step)
  | branch (alternatives : List (List Step))
  | repeat (kind : RepeatKind) (min : Nat) (max : Option Nat) (body : List Step)
  | reference (fold : Fold) (group : Nat)
  | conditional (group : Nat) (yes no : List Step)

/-! ### Preparation -/

/-- The name of a repeat in messages. -/
def RepeatKind.name : RepeatKind → Text
  | .greedy => "MAX_REPEAT"
  | .lazy => "MIN_REPEAT"
  | .possessive => "POSSESSIVE_REPEAT"

/-- The greatest width of a look behind. -/
def lookBehindLimit : Nat := 4294967295

/-- The number of characters that a look behind goes back. -/
def lookBehindWidth (w : Nat × Nat) : Except Fault Nat :=
  if lookBehindLimit < w.1 then .error (.malformed .lookBehindTooLong none)
  else if w.1 ≠ w.2 then .error (.malformed .lookBehindNotFixed none)
  else .ok w.1

mutual

/-- Prepares a node under some options. -/
def Node.prepare (widths : Nat → Nat × Nat) (o : Options) : Node → Except Fault Step
  | .literal c => .ok (.char (literalTest o false c))
  | .notLiteral c => .ok (.char (literalTest o true c))
  | .any => .ok (.char (if o.dotAll then .any else .notFeed))
  | .set negated items => .ok (.char (setTest o negated items))
  | .anchor a => .ok (.anchor (!o.unicode) o.multiline a)
  | .group number added removed body => do
    let steps ← prepareAll widths (o.inside added removed) body
    match number with
    | some g => return .capture g steps
    | none => return .sequence steps
  | .atomic body => return .atomic (← prepareAll widths o body)
  | .look behind negated body => do
    let back ← if behind then lookBehindWidth (sequenceWidth widths body) else pure 0
    return .look back negated (← prepareAll widths o body)
  | .branch alternatives => return .branch (← prepareEach widths o alternatives)
  | .repeat kind min max body => do
    if o.template then throw (.malformed (.repeatInTemplate kind.name) none)
    return .repeat kind min max (← prepareAll widths o body)
  | .reference g => .ok (.reference o.fold g)
  | .conditional g yes no => do
    let yes ← prepareAll widths o yes
    match no with
    | some no => return .conditional g yes (← prepareAll widths o no)
    | none => return .conditional g yes []

/-- Prepares a sequence. -/
def prepareAll (widths : Nat → Nat × Nat) (o : Options) : List Node → Except Fault (List Step)
  | [] => .ok []
  | n :: ns => do
    let step ← n.prepare widths o
    return step :: (← prepareAll widths o ns)

/-- Prepares alternatives. -/
def prepareEach (widths : Nat → Nat × Nat) (o : Options) :
    List (List Node) → Except Fault (List (List Step))
  | [] => .ok []
  | a :: as => do
    let steps ← prepareAll widths o a
    return steps :: (← prepareEach widths o as)

end

/-! ### Places -/

/-- A place in a text and the groups matched so far. -/
structure Cursor where
  /-- The characters before the place, nearest first. -/
  before : Text
  /-- The characters after the place. -/
  after : Text
  /-- The number of characters before the place. -/
  index : Nat
  /-- The texts of the groups, latest first. -/
  captures : List (Nat × Text) := []

namespace Cursor

/-- Takes the next character if it passes a test. -/
def take? (t : CharTest) (s : Cursor) : Option Cursor :=
  match s.after with
  | [] => none
  | c :: rest =>
    if t.holds c then
      some { s with before := c :: s.before, after := rest, index := s.index + 1 }
    else none

/-- Goes back some characters. -/
def back? : Nat → Cursor → Option Cursor
  | 0, s => some s
  | n + 1, s =>
    match s.before with
    | [] => none
    | c :: rest =>
      back? n { s with before := rest, after := c :: s.after, index := s.index - 1 }

/-- Takes the characters of a group that has been matched before. -/
def takeText? (fold : Fold) : Text → Cursor → Option Cursor
  | [], s => some s
  | c :: t, s =>
    match s.after with
    | [] => none
    | d :: rest =>
      if fold.apply c = fold.apply d then
        takeText? fold t { s with before := d :: s.before, after := rest, index := s.index + 1 }
      else none

/-- Whether the character at the head of a text belongs to a word. -/
def headIsWord (ascii : Bool) : Text → Bool
  | [] => false
  | c :: _ => Category.holds ascii .word c

/-- A line feed at the head of a text. -/
def headIsFeed : Text → Bool
  | [] => false
  | c :: _ => c.val == 10

/-- Whether the place is one of a kind. -/
def isAt (ascii multiline : Bool) (a : Anchor) (s : Cursor) : Bool :=
  let atStart := s.before.isEmpty
  let atEnd := s.after.isEmpty
  let edge := headIsWord ascii s.before != headIsWord ascii s.after
  match a with
  | .textStart => atStart
  | .textEnd => atEnd
  | .lineStart => atStart || (multiline && headIsFeed s.before)
  | .lineEnd => atEnd || (headIsFeed s.after && (multiline || s.after.length == 1))
  | .wordBoundary => !(atStart && atEnd) && edge
  | .notWordBoundary => !(atStart && atEnd) && !edge

end Cursor

/-! ### Backtracking -/

/-- What is left to match. -/
abbrev Continuation := Cursor → Option Cursor

/-- The turns that a repeat has to make. -/
def mandatory (turn : Cursor → Continuation → Option Cursor) :
    (count : Nat) → Cursor → Continuation → Option Cursor
  | 0, s, k => k s
  | n + 1, s, k => turn s fun s => mandatory turn n s k

/-- One of the orders in which a repeat tries to end and to go on. -/
def choose (greedy : Bool) (stop : Unit → Option Cursor) (goOn : Unit → Option Cursor) :
    Option Cursor :=
  if greedy then (goOn ()).or (stop ()) else (stop ()).or (goOn ())

/-- At most `count` further turns, the last of which started at `last`. -/
def optional (greedy : Bool) (turn : Cursor → Continuation → Option Cursor) :
    (count : Nat) → (last : Option Nat) → Cursor → Continuation → Option Cursor
  | 0, _, s, k => k s
  | n + 1, last, s, k =>
    if last = some s.index then k s
    else
      choose greedy (fun _ => k s) fun _ =>
        turn s fun s' => optional greedy turn n (some s.index) s' k

/-- As many turns as possible, at most `count`, each one taken as it first matches. -/
def greedyRun (turn : Cursor → Option Cursor) :
    (count : Nat) → (last : Option Nat) → Cursor → Cursor
  | 0, _, s => s
  | n + 1, last, s =>
    if last = some s.index then s
    else
      match turn s with
      | some s' => greedyRun turn n (some s.index) s'
      | none => s

/-- The number of optional turns that can make a difference: after as many turns as characters are
left, and one more, a turn has taken no character. -/
def turnLimit (s : Cursor) (min : Nat) : Option Nat → Nat
  | none => s.after.length + 2
  | some max => Nat.min (max - min) (s.after.length + 2)

mutual

/-- Matches one step. -/
def Step.run : Step → Cursor → Continuation → Option Cursor
  | .char t, s, k => (s.take? t).bind k
  | .anchor ascii multiline a, s, k => if s.isAt ascii multiline a then k s else none
  | .capture g body, s, k =>
    runAll body s fun s' =>
      k { s' with captures := (g, s.after.take (s'.index - s.index)) :: s'.captures }
  | .sequence body, s, k => runAll body s k
  | .atomic body, s, k => (runAll body s some).bind k
  | .look back negated body, s, k =>
    match s.back? back with
    | none => if negated then k s else none
    | some start =>
      match runAll body start some with
      | some inner => if negated then none else k { s with captures := inner.captures }
      | none => if negated then k s else none
  | .branch alternatives, s, k => runAny alternatives s k
  | .repeat kind min max body, s, k =>
    match kind with
    | .possessive =>
      (mandatory (fun s k => (runAll body s some).bind k) min s some).bind fun s =>
        k (greedyRun (fun s => runAll body s some) (turnLimit s min max) none s)
    | .greedy =>
      mandatory (runAll body) min s fun s =>
        optional true (runAll body) (turnLimit s min max) none s k
    | .lazy =>
      mandatory (runAll body) min s fun s =>
        optional false (runAll body) (turnLimit s min max) none s k
  | .reference fold g, s, k =>
    match s.captures.lookup g with
    | some t => (s.takeText? fold t).bind k
    | none => none
  | .conditional g yes no, s, k =>
    if (s.captures.lookup g).isSome then runAll yes s k else runAll no s k

/-- Matches a sequence of steps. -/
def runAll : List Step → Cursor → Continuation → Option Cursor
  | [], s, k => k s
  | step :: steps, s, k => step.run s fun s => runAll steps s k

/-- Matches the first alternative that leads to success. -/
def runAny : List (List Step) → Cursor → Continuation → Option Cursor
  | [], _, _ => none
  | a :: as, s, k => (runAll a s k).or (runAny as s k)

end

end LedgerTags.Pattern

namespace LedgerTags

/-- A prepared pattern, with its text. -/
structure Pattern where
  /-- The text of the pattern. -/
  text : Text
  /-- The steps that match it. -/
  steps : List Pattern.Step

namespace Pattern

/-- Prepares a pattern in which letter case does not matter. Groups are nested to any depth. -/
def compile (text : Text) : Except Fault Pattern := do
  let reading ← readPattern { ignoreCase := true } text
  let steps ← prepareAll reading.widths reading.options reading.nodes
  return { text, steps }

/-- Whether a pattern matches at a place. -/
def matchesAt (p : Pattern) (before after : Text) (index : Nat) : Bool :=
  (runAll p.steps { before, after, index } some).isSome

/-- Whether a pattern matches at a place or after it. -/
def occursFrom (p : Pattern) (before : Text) (index : Nat) : Text → Bool
  | [] => p.matchesAt before [] index
  | c :: t => p.matchesAt before (c :: t) index || p.occursFrom (c :: before) (index + 1) t

/-- Whether a pattern matches somewhere in a text. -/
def occursIn (p : Pattern) (t : Text) : Bool := p.occursFrom [] 0 t

end Pattern

end LedgerTags
