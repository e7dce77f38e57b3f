import TemporalMonitor.Regex.Brackets

/-!
Reading patterns.

The groups that are still open are kept in a list, so a text may open any number of them.
-/

namespace TemporalMonitor.Regex

def flag? (c : Char) : Option Flag :=
  match c with
  | 'i' => some .caseless
  | 'm' => some .multiLine
  | 's' => some .dotAll
  | 'U' => some .swapGreed
  | 'u' => some .unicode
  | 'R' => some .crlf
  | 'x' => some .ignoreSpace
  | _ => none

/-- Flags as letters, up to a colon or a closing parenthesis. Those after a minus sign are switched
off, and none is given twice. -/
def readFlags : List Char → List Char → Bool → FlagChanges → Option (FlagChanges × List Char)
  | [], _, _, _ => none
  | c :: rest, seen, negated, changes =>
    if c == ':' || c == ')' then
      if seen.head? == some '-' then none else some (changes, c :: rest)
    else if seen.contains c then none
    else if c == '-' then readFlags rest (c :: seen) true changes
    else match flag? c with
      | some flag => readFlags rest (c :: seen) negated (changes ++ [(flag, !negated)])
      | none => none

/-- Letters and numbers that only names of groups know. -/
def lateLetters : CharSet :=
  .ofRanges [⟨0x88F, 0x88F⟩, ⟨0xC5C, 0xC5C⟩, ⟨0xCDC, 0xCDC⟩, ⟨0xA7CE, 0xA7CF⟩, ⟨0xA7D2, 0xA7D2⟩,
    ⟨0xA7D4, 0xA7D4⟩, ⟨0xA7F1, 0xA7F1⟩, ⟨0x10940, 0x10959⟩, ⟨0x10EC5, 0x10EC7⟩,
    ⟨0x10EFA, 0x10EFB⟩, ⟨0x11B60, 0x11B67⟩, ⟨0x11DB0, 0x11DDB⟩, ⟨0x16EA0, 0x16EB8⟩,
    ⟨0x16EBB, 0x16ED3⟩, ⟨0x16FF2, 0x16FF6⟩, ⟨0x187F8, 0x187FF⟩, ⟨0x18D09, 0x18D1E⟩,
    ⟨0x18D80, 0x18DF2⟩, ⟨0x1E6C0, 0x1E6DE⟩, ⟨0x1E6E0, 0x1E6F5⟩, ⟨0x1E6FE, 0x1E6FF⟩,
    ⟨0x2B73A, 0x2B73F⟩, ⟨0x2CEA2, 0x2CEAD⟩, ⟨0x323B0, 0x33479⟩]

def nameLetters : CharSet :=
  Unicode.alphabetic.union lateLetters

def nameDigits : CharSet :=
  (Unicode.ofCategories ["Nd", "Nl", "No"]).union (.ofRanges [⟨0x11DE0, 0x11DE9⟩])

def isNameStart (c : Char) : Bool :=
  c == '_' || nameLetters.has c

def isNameRest (c : Char) : Bool :=
  c == '_' || c == '.' || c == '[' || c == ']' || nameLetters.has c || nameDigits.has c

/-- The name of a group, up to the closing angle bracket. -/
def readGroupName (text : List Char) : Option (String × List Char) :=
  match text.takeWhile (· != '>'), text.dropWhile (· != '>') with
  | c :: name, _ :: rest =>
      if isNameStart c && name.all isNameRest then some (String.ofList (c :: name), rest) else none
  | _, _ => none

/-- How a group begins. -/
inductive Opening where
  | capture (name : Option String)
  | plain (changes : FlagChanges)
  /-- No group, but flags for what follows. -/
  | flags (changes : FlagChanges)

/-- What follows an opening parenthesis. There are no conditions on what comes before or after. -/
def readOpening (text : List Char) : Option (Opening × List Char) :=
  match text with
  | '?' :: '=' :: _ | '?' :: '!' :: _ | '?' :: '<' :: '=' :: _ | '?' :: '<' :: '!' :: _ => none
  | '?' :: 'P' :: '<' :: rest | '?' :: '<' :: rest => do
      let (name, rest) ← readGroupName rest
      some (.capture (some name), rest)
  | '?' :: rest => do
      match ← readFlags rest [] false [] with
      | (changes, ':' :: rest) => some (.plain changes, rest)
      | ([], _) => none
      | (changes, _ :: rest) => some (.flags changes, rest)
      | (_, []) => none
  | _ => some (.capture none, text)

/-- A sequence that is being read, last part first, and the alternatives before it. -/
structure Level where
  /-- The group that the sequence belongs to. -/
  kind : GroupKind
  /-- Whether the text around the group is verbose. -/
  isVerboseAround : Bool
  branches : List (Nested Pattern)
  parts : List (Nested Pattern)

namespace Level

def opened (kind : GroupKind) (isVerboseAround : Bool) : Level where
  kind := kind
  isVerboseAround := isVerboseAround
  branches := []
  parts := []

def push (level : Level) (part : Nested Pattern) : Level :=
  { level with parts := part :: level.parts }

/-- The sequence ends, and another alternative begins. -/
def branch? (level : Level) : Option Level := do
  let sequence ← joinParts? .empty .concat level.parts
  some { level with branches := sequence :: level.branches, parts := [] }

/-- All alternatives together. -/
def content? (level : Level) : Option (Nested Pattern) := do
  let level ← level.branch?
  joinParts? .empty .alternation level.branches

/-- Repeats the last part. Flags cannot be repeated. -/
def repeatLast? (level : Level) (least : Nat) (most : Option Nat) (isGreedy : Bool) :
    Option Level :=
  match level.parts with
  | [] | ⟨.flags _, _⟩ :: _ | ⟨.empty, _⟩ :: _ => none
  | part :: before => do
      let whole ← Nested.around? part.depth (.repeated part.node least most isGreedy)
      some { level with parts := whole :: before }

end Level

/-- Where the reading of a pattern stands. -/
structure Progress where
  isVerbose : Bool
  /-- The names of the groups so far. -/
  names : List String
  /-- The number of groups that capture. -/
  captures : Nat
  level : Level
  /-- The levels around the current one, the nearest first. -/
  outer : List Level

namespace Progress

def start : Progress where
  isVerbose := false
  names := []
  captures := 0
  level := .opened (.plain []) false
  outer := []

def push (progress : Progress) (part : Nested Pattern) : Progress :=
  { progress with level := progress.level.push part }

/-- Whether text is verbose after the flags have changed. -/
def verboseAfter (progress : Progress) (changes : FlagChanges) : Bool :=
  (changes.lookup .ignoreSpace).getD progress.isVerbose

def openLevel (progress : Progress) (kind : GroupKind) (isVerbose : Bool) : Progress :=
  { progress with
    isVerbose := isVerbose
    level := .opened kind progress.isVerbose
    outer := progress.level :: progress.outer }

/-- No two groups have the same name. -/
def openGroup? (progress : Progress) : Opening → Option Progress
  | .flags changes =>
      let progress := { progress with isVerbose := progress.verboseAfter changes }
      some (progress.push (.leaf (.flags changes)))
  | .plain changes =>
      some (progress.openLevel (.plain changes) (progress.verboseAfter changes))
  | .capture name =>
      if name.any progress.names.contains then none
      else
        let index := progress.captures + 1
        let progress := { progress with
          names := name.toList ++ progress.names
          captures := index }
        some (progress.openLevel (.capture index) progress.isVerbose)

/-- The innermost open group ends. -/
def closeGroup? (progress : Progress) : Option Progress := do
  match progress.outer with
  | [] => none
  | parent :: outer =>
      let content ← progress.level.content?
      let group ← Nested.around? content.depth (.group progress.level.kind content.node)
      some { progress with
        isVerbose := progress.level.isVerboseAround
        level := parent.push group
        outer := outer }

def repeatLast? (progress : Progress) (least : Nat) (most : Option Nat) (isGreedy : Bool) :
    Option Progress := do
  some { progress with level := ← progress.level.repeatLast? least most isGreedy }

def branch? (progress : Progress) : Option Progress := do
  some { progress with level := ← progress.level.branch? }

end Progress

/-- A question mark after a repetition makes it lazy. -/
def readGreed (text : List Char) : Bool × List Char :=
  match text with
  | '?' :: rest => (false, rest)
  | _ => (true, text)

def ofEscape : Escape → Pattern
  | .literal literal => .literal literal
  | .shorthand kind negated => .shorthand kind negated
  | .property query negated => .property query negated
  | .assertion assertion => .assertion assertion

def readPattern : Nat → Progress → List Char → Option Progress
  | 0, _, _ => none
  | fuel + 1, progress, text =>
    let verbose := progress.isVerbose
    let times := fun (least : Nat) (most : Option Nat) (text : List Char) => do
      let (isGreedy, rest) := readGreed text
      readPattern fuel (← progress.repeatLast? least most isGreedy) rest
    let leaf := fun (pattern : Pattern) rest =>
      readPattern fuel (progress.push (.leaf pattern)) rest
    match skip verbose text with
    | [] => some progress
    | '(' :: rest => do
        let (opening, rest) ← readOpening (skip verbose rest)
        readPattern fuel (← progress.openGroup? opening) rest
    | ')' :: rest => do readPattern fuel (← progress.closeGroup?) rest
    | '|' :: rest => do readPattern fuel (← progress.branch?) rest
    | '[' :: rest => do
        let (cls, rest) ← readClass verbose rest
        readPattern fuel (progress.push cls) rest
    | '?' :: rest => times 0 (some 1) rest
    | '*' :: rest => times 0 none rest
    | '+' :: rest => times 1 none rest
    | '\x7b' :: rest => do
        let ((least, most), rest) ← readBounds verbose rest
        times least most (skip verbose rest)
    | '\\' :: rest => do
        let (escape, rest) ← readEscape verbose rest
        leaf (ofEscape escape) rest
    | '.' :: rest => leaf .dot rest
    | '^' :: rest => leaf (.assertion .lineStart) rest
    | '$' :: rest => leaf (.assertion .lineEnd) rest
    | c :: rest => leaf (.literal (literalOf c)) rest

/-- The pattern that a text writes, if the text is well formed. -/
def Pattern.ofText? (text : String) : Option Pattern := do
  let progress ← readPattern (text.length + 1) .start text.toList
  match progress.outer with
  | [] => (progress.level.content?).map Nested.node
  | _ :: _ => none

end TemporalMonitor.Regex
