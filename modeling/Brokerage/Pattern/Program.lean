import Brokerage.Pattern.Linear

/-!
Patterns as programs. What needs no memory is left to a linear search, which settles on one way
through; the rest is written out as instructions that remember where else they might have gone.
Which parts are left to linear searches shows in two ways: in which patterns cannot be written out,
and in how many ways are tried before a search gives up.
-/

set_option autoImplicit false

namespace Brokerage.Pattern

/-- What is to be done at a place in the text. A slot holds a place or a count. -/
inductive Instruction where
  | take (set : Unicode.Ranges)
  | edge (edge : Edge)
  | fork (preferred other : Nat)
  | jump (target : Nat)
  | mark (slot : Nat)
  | reset (slot : Nat)
  | resume (slot : Nat)
  | back (count : Nat)
  | count (least : Nat) (most : Option Nat) (eager : Bool) (beyond counter : Nat)
  | progress (least : Nat) (eager : Bool) (beyond counter last : Nat)
  | again (index : Nat) (blind : Bool)
  | heard (index : Nat)
  | linear (steps : Array Linear.Step)
  | linearBehind (steps : Array Linear.Step)
  | enter
  | leave
  | refuse
  | finish

/-- Instructions by the number of the first of them. -/
abbrev Code := (start : Nat) → List Instruction

/-- A pattern that is ready to be searched for, with the number of slots it needs. -/
inductive Program where
  | linear (steps : Array Linear.Step)
  | branching (instructions : Array Instruction) (slots : Nat)

namespace Program

/-! ### What can be left to a linear search -/

/-- Whether a pattern needs memory, where the texts of some groups are asked for. -/
def needsMemory (asked : List Nat) : Pattern → Bool
  | .nothing | .one _ => false
  | .edge e => !e.isPlain
  | .both first second | .either first second =>
    needsMemory asked first || needsMemory asked second
  | .repeated body _ _ _ => needsMemory asked body
  | .group index body => index.any asked.contains || needsMemory asked body
  | _ => true

/-- The greatest count of a repetition in a linear search. -/
def countLimit : Nat := 0xFFFFFFFF

/-- Whether the counts of all repetitions are in order. -/
def hasGoodCounts : Pattern → Bool
  | .both first second | .either first second => hasGoodCounts first && hasGoodCounts second
  | .repeated body least most _ =>
    hasGoodCounts body && least ≤ countLimit &&
      most.all fun most ↦ least ≤ most && most ≤ countLimit
  | .group _ body => hasGoodCounts body
  | _ => true

def isWritable (p : Pattern) : Bool :=
  hasGoodCounts p && p.size ≤ sizeLimit

/-- A pattern that is left to a linear search. -/
def linearly (p : Pattern) : Option Code :=
  if !isWritable p then none
  else
    match p with
    | .nothing => some fun _ ↦ []
    | .one set => some fun _ ↦ [.take set]
    | .edge e => some fun _ ↦ [.edge e]
    | other => some fun _ ↦ [.linear (Linear.anchored other)]

/-! ### Writing out -/

def sequence (first second : Code) : Code := fun start ↦
  let instructions := first start
  instructions ++ second (start + instructions.length)

def alternatives (first second : Code) : Code := fun start ↦
  let one := first (start + 1)
  let behind := start + 2 + one.length
  let other := second behind
  .fork (start + 1) behind :: one ++ .jump (behind + other.length) :: other

def forkTo (eager : Bool) (further beyond : Nat) : Instruction :=
  if eager then .fork further beyond else .fork beyond further

/-- A loop whose first instructions say when it ends, given the number of the first and of what is
behind the loop. -/
def loop (head : (start beyond : Nat) → List Instruction) (body : Code) : Code := fun start ↦
  let length := (head start 0).length
  let instructions := body (start + length)
  let beyond := start + length + instructions.length + 1
  head start beyond ++ instructions ++ [.jump (start + length - 1)]

/-- A repetition. One without an upper bound, of what may match no text, is left as soon as a round
moves nothing; the counts of the others are kept in a slot unless a fork will do. -/
def repetition (least : Nat) (most : Option Nat) (eager mayBeEmpty : Bool) (slot : Nat)
    (body : Code) : Code :=
  match least, most with
  | 0, some 1 => fun start ↦
    let instructions := body (start + 1)
    forkTo eager (start + 1) (start + 1 + instructions.length) :: instructions
  | least, none =>
    if mayBeEmpty then
      loop (fun _ beyond ↦ [.reset slot, .progress least eager beyond slot (slot + 1)]) body
    else if least = 0 then loop (fun start beyond ↦ [forkTo eager (start + 1) beyond]) body
    else if least = 1 then fun start ↦
      let instructions := body start
      instructions ++ [forkTo eager start (start + instructions.length + 1)]
    else loop (fun _ beyond ↦ [.reset slot, .count least none eager beyond slot]) body
  | least, most =>
    loop (fun _ beyond ↦ [.reset slot, .count least most eager beyond slot]) body

/-- Looking around for what is expected: whatever way is found, the place is kept. -/
def expecting (slot : Nat) (body : Code) : Code := fun start ↦
  .mark slot :: body (start + 1) ++ [.resume slot]

/-- Looking around for what is not expected. -/
def refusing (body : Code) : Code := fun start ↦
  let instructions := body (start + 1)
  .fork (start + 1) (start + instructions.length + 2) :: instructions ++ [.refuse]

/-- A choice settles on the first way in which its test succeeds. -/
def choosing (test first second : Code) : Code := fun start ↦
  let tried := test (start + 2)
  let one := first (start + tried.length + 3)
  let behind := start + tried.length + one.length + 4
  let other := second behind
  .enter :: .fork (start + 2) behind :: tried ++ .leave :: one ++
    .jump (behind + other.length) :: other

/-- Where a pattern stands: alone, as the rest of a sequence, or as the rest of alternatives. The
parts of a sequence before its rest may all be fixed and without memory. -/
inductive Stand where
  | alone
  | inSequence (led : Bool)
  | inAlternatives

/-- Whether a pattern is left to a linear search where it stands. Something that may fail follows
where ways back are kept. -/
def isLinear (asked : List Nat) (stand : Stand) (keeping : Bool) (p : Pattern) : Bool :=
  match stand, p with
  | .inAlternatives, .either _ _ => false
  | .inSequence _, p => !needsMemory asked p && (!keeping || p.isFixed)
  | _, p => !needsMemory asked p && !keeping

/-- The instructions of a pattern inside `depth` slots in use, unless it cannot be written out. -/
def code (asked : List Nat) : Pattern → (stand : Stand) → (keeping : Bool) → (depth : Nat) →
    Option Code
  | p, stand, keeping, depth =>
    if isLinear asked stand keeping p then linearly p
    else
      let kept := match stand with
        | .inSequence _ => true
        | _ => keeping
      match p with
      | .nothing => some fun _ ↦ []
      | .one set => some fun _ ↦ [.take set]
      | .edge e => some fun _ ↦ [.edge e]
      | .both first second => do
        let led := match stand with
          | .inSequence led => led
          | _ => true
        let isLed := led && first.isFixed && !needsMemory asked first
        let one ← if isLed then linearly first else code asked first .alone true depth
        return sequence one (← code asked second (.inSequence isLed) keeping depth)
      | .either first second => do
        return alternatives (← code asked first .alone kept depth)
          (← code asked second .inAlternatives kept depth)
      | .repeated body least most eager => do
        let counted := !(least == 0 && most == some 1)
        let inner ← code asked body .alone (kept || counted) (depth + 2)
        return repetition least most eager (body.least == 0) depth inner
      | .group none body => code asked body .alone kept depth
      | .group (some index) body => do
        let inner ← code asked body .alone kept depth
        if asked.contains index then
          return sequence (fun _ ↦ [.mark (2 * index)])
            (sequence inner fun _ ↦ [.mark (2 * index + 1)])
        else return inner
      | .again index blind => some fun _ ↦ [.again index blind]
      | .heard index => some fun _ ↦ [.heard index]
      | .whole body => do
        let inner ← code asked body .alone false depth
        return sequence (fun _ ↦ [.enter]) (sequence inner fun _ ↦ [.leave])
      | .ahead expected body => do
        let inner ← code asked body .alone false (depth + 1)
        return if expected then expecting depth inner else refusing inner
      | .behind expected body => do
        let inner ←
          if body.isFixed then do
            let inner ← code asked body .alone false (depth + 1)
            pure (sequence (fun _ ↦ [.back body.least]) inner)
          else if !needsMemory asked body && isWritable body then
            pure fun _ ↦ [.linearBehind (Linear.floating body)]
          else none
        return if expected then expecting depth inner else refusing inner
      | .choice test first second => do
        return choosing (← code asked test .alone kept depth)
          (← code asked first .alone kept depth) (← code asked second .alone kept depth)

/-! ### Whole patterns -/

/-- The alternatives of a pattern. -/
def branches : Pattern → List Pattern
  | .either first second => first :: branches second
  | other => [other]

/-- Parts, one of which is matched, or which are matched one after another. -/
def joined (join : Pattern → Pattern → Pattern) : List Pattern → Pattern
  | [] => .nothing
  | [part] => part
  | part :: rest => join part (joined join rest)

/-- Looking behind for one of several lengths is looking behind for each of the alternatives. -/
def lookingBehind (expected : Bool) (body : Pattern) : Pattern :=
  match body.bare with
  | .either first second =>
    if body.isFixed then .behind expected body
    else
      let parts := (first :: branches second).map (.behind expected)
      .group none (joined (if expected then .either else .both) parts)
  | _ => .behind expected body

/-- A pattern that looks behind for one alternative at a time. -/
def spread : Pattern → Pattern
  | .both first second => .both (spread first) (spread second)
  | .either first second => .either (spread first) (spread second)
  | .repeated body least most eager => .repeated (spread body) least most eager
  | .group index body => .group index (spread body)
  | .ahead expected body => .ahead expected (spread body)
  | .behind expected body => lookingBehind expected (spread body)
  | .whole body => .whole (spread body)
  | .choice test first second => .choice (spread test) (spread first) (spread second)
  | other => other

/-- What stands before a look ahead at the end of a sequence, and what is expected there. -/
def lastLook? : Pattern → Option (Pattern × Pattern)
  | .both first (.ahead true body) => some (first, body)
  | .both first second => (lastLook? second).map fun (rest, body) ↦ (.both first rest, body)
  | _ => none

/-- A look ahead at the end of a pattern need not give back what it saw. -/
def released (p : Pattern) : Pattern :=
  match lastLook? p with
  | some (before, body) => .both (.group none before) body
  | none => p

/-- Whether a pattern can match at the beginning of a text alone. -/
def isAnchored : Pattern → Bool
  | .edge .start | .both (.edge .start) _ => true
  | _ => false

/-- The number of slots in use at once inside a pattern. -/
def slots : Pattern → Nat
  | .both first second | .either first second => max (slots first) (slots second)
  | .repeated body _ _ _ => slots body + 2
  | .group _ body | .whole body => slots body
  | .ahead _ body | .behind _ body => slots body + 1
  | .choice test first second => max (slots test) (max (slots first) (slots second))
  | _ => 0

/-- The program of a pattern with so many groups, the texts of some of which are asked for. -/
def ofPattern? (groups : Nat) (asked : List Nat) (p : Pattern) : Option Program :=
  let p := released (spread p.bare)
  if !needsMemory asked p then
    if isWritable p then some (.linear (Linear.floating p)) else none
  else do
    let depth := 2 * (groups + 1)
    let body ← code asked p .alone false depth
    let lead : Code := fun start ↦
      if isAnchored p then []
      else [.fork (start + 3) (start + 1), .take Unicode.Ranges.full, .jump start]
    return .branching ((sequence lead body 0).toArray.push .finish) (depth + slots p)

end Program

end Brokerage.Pattern
