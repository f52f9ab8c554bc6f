import EventPipeline.Python.Json

/-!
# EventPipeline.Python.JsonLoads

`json.loads` as a machine that reads one code point at a time. Its stack holds the
open containers, its mode says what may come next. Every step is total and the
machine is run by recursion on the text, so no input makes it run out of anything
but the interpreter's recursion limit, which it raises as the scanner does.

Three error kinds are told apart because callers do: `JSONDecodeError` (a subclass
of `ValueError`), a plain `ValueError` (a rejected constant, an integer literal too
long to convert) and `RecursionError`.
-/

namespace EventPipeline.Python

/-- What `json.loads` raises. -/
inductive JsonError
  | jsonDecodeError
  | valueError
  | recursionError
  deriving DecidableEq

namespace JsonError

/-- `type(exc).__name__`. -/
def name : JsonError → String
  | jsonDecodeError => "JSONDecodeError"
  | valueError => "ValueError"
  | recursionError => "RecursionError"

end JsonError

namespace JsonLoads

/-- The scanner's settings: how deep it may nest, and whether `parse_constant`
accepts `NaN` and the infinities. -/
structure Config where
  recursionLimit : Nat
  allowConstants : Bool

/-- An open container: an array's items in reverse, an object waiting for a key, or
an object waiting for the value of `key`. -/
inductive Frame
  | items (rev : List Json)
  | key (d : Dict)
  | member (d : Dict) (key : PyStr)

/-- Where an escape sequence inside a string stands. -/
inductive Escape
  | none
  | backslash
  | hex (count value : Nat)

/-- A string being read, in reverse; `pending` when the last code point is the
first half of an escaped pair. -/
structure StrState where
  rev : PyStr
  pending : Bool
  escape : Escape

/-- How far a number has been read; `lexeme` holds the digits that already form a
complete number. -/
inductive NumPhase
  | minus | int | point | frac | exp
  | expSign (neg : Bool)
  | expDigits

/-- What the machine expects next. -/
inductive Mode
  | value | firstItem | firstKey | nextKey | colon | after
  | string (s : StrState)
  | number (phase : NumPhase) (lexeme : FloatLexeme)
  | literal (rest : PyStr) (v : Json)
  | done (v : Json)

structure State where
  mode : Mode
  stack : List Frame

/-- The machine at the start of a document. -/
def start : State := ⟨.value, []⟩

/-- Space, tab, line feed, carriage return. -/
def isSpace (c : CodePoint) : Bool := c.val = 32 || c.val = 9 || c.val = 10 || c.val = 13

/-- The code point is the given character. -/
def is (ch : Char) (c : CodePoint) : Bool := c == CodePoint.ofChar ch

/-- A value has been read. -/
def complete (v : Json) : List Frame → State
  | [] => ⟨.done v, []⟩
  | .items rev :: k => ⟨.after, .items (v :: rev) :: k⟩
  | .member d key :: k => ⟨.after, .member (d.set key v) key :: k⟩
  | .key d :: k => ⟨.after, .key d :: k⟩

/-- A string has been read: a key, or a value. -/
def completeString (s : PyStr) : List Frame → State
  | .key d :: k => ⟨.colon, .member d s :: k⟩
  | k => complete (.str s) k

/-- Open a container. -/
def push (cfg : Config) (mode : Mode) (frame : Frame) (k : List Frame) :
    Except JsonError State :=
  if cfg.recursionLimit ≤ k.length then .error .recursionError else .ok ⟨mode, frame :: k⟩

/-- The first code point of a value. -/
def stepValue (cfg : Config) (k : List Frame) (c : CodePoint) : Except JsonError State :=
  if is '"' c then .ok ⟨.string ⟨[], false, .none⟩, k⟩
  else if is '{' c then push cfg .firstKey (.key []) k
  else if is '[' c then push cfg .firstItem (.items []) k
  else if is 'n' c then .ok ⟨.literal "ull" .null, k⟩
  else if is 't' c then .ok ⟨.literal "rue" (.bool true), k⟩
  else if is 'f' c then .ok ⟨.literal "alse" (.bool false), k⟩
  else if is 'N' c then .ok ⟨.literal "aN" (.float .nan), k⟩
  else if is 'I' c then .ok ⟨.literal "nfinity" (.float (.inf false)), k⟩
  else if is '-' c then .ok ⟨.number .minus ⟨true, [], none, none⟩, k⟩
  else if c.isDigit then .ok ⟨.number .int ⟨false, [c], none, none⟩, k⟩
  else .error .jsonDecodeError

/-- A code point after a complete value. -/
def stepAfter (st : State) (c : CodePoint) : Except JsonError State :=
  if isSpace c then .ok st
  else
    match st.stack with
    | .items rev :: k =>
        if is ',' c then .ok ⟨.value, .items rev :: k⟩
        else if is ']' c then .ok (complete (.arr rev.reverse) k)
        else .error .jsonDecodeError
    | .member d _ :: k =>
        if is ',' c then .ok ⟨.nextKey, .key d :: k⟩
        else if is '}' c then .ok (complete (.obj d) k)
        else .error .jsonDecodeError
    | _ => .error .jsonDecodeError

/-- The value of a hexadecimal digit. -/
def hexVal (c : CodePoint) : Option Nat :=
  if c.isDigit then some c.digitVal
  else if 97 ≤ c.val ∧ c.val ≤ 102 then some (c.val - 87)
  else if 65 ≤ c.val ∧ c.val ≤ 70 then some (c.val - 55)
  else none

/-- Append an escaped UTF-16 unit, joining it to a pending first half. -/
def StrState.pushUnit (s : StrState) (u : Nat) : StrState :=
  match s.rev with
  | high :: rest =>
      if s.pending ∧ 0xdc00 ≤ u ∧ u ≤ 0xdfff then
        ⟨Fin.ofNat _ (0x10000 + (high.val - 0xd800) * 0x400 + (u - 0xdc00)) :: rest, false, .none⟩
      else ⟨Fin.ofNat _ u :: s.rev, 0xd800 ≤ u && u ≤ 0xdbff, .none⟩
  | [] => ⟨[Fin.ofNat _ u], 0xd800 ≤ u && u ≤ 0xdbff, .none⟩

/-- The code point a one-letter escape stands for. -/
def simpleEscape (c : CodePoint) : Option CodePoint :=
  if is '"' c || is '\\' c || is '/' c then some c
  else if is 'b' c then some 8
  else if is 'f' c then some 12
  else if is 'n' c then some 10
  else if is 'r' c then some 13
  else if is 't' c then some 9
  else none

/-- One code point inside a string. -/
def stepString (s : StrState) (k : List Frame) (c : CodePoint) : Except JsonError State :=
  match s.escape with
  | .none =>
      if is '"' c then .ok (completeString s.rev.reverse k)
      else if is '\\' c then .ok ⟨.string { s with escape := .backslash }, k⟩
      else if c.val < 32 then .error .jsonDecodeError
      else .ok ⟨.string ⟨c :: s.rev, false, .none⟩, k⟩
  | .backslash =>
      if is 'u' c then .ok ⟨.string { s with escape := .hex 0 0 }, k⟩
      else
        match simpleEscape c with
        | some e => .ok ⟨.string ⟨e :: s.rev, false, .none⟩, k⟩
        | none => .error .jsonDecodeError
  | .hex count value =>
      match hexVal c with
      | none => .error .jsonDecodeError
      | some d =>
          if count = 3 then .ok ⟨.string (s.pushUnit (value * 16 + d)), k⟩
          else .ok ⟨.string { s with escape := .hex (count + 1) (value * 16 + d) }, k⟩

/-- Take one more code point into a number, when it belongs to it. -/
def stepNumber (phase : NumPhase) (l : FloatLexeme) (c : CodePoint) :
    Option (NumPhase × FloatLexeme) :=
  match phase with
  | .minus => if c.isDigit then some (.int, { l with int := [c] }) else none
  | .int =>
      if c.isDigit then
        if l.int = [digitChar 0] then none else some (.int, { l with int := l.int ++ [c] })
      else if is '.' c then some (.point, l)
      else if is 'e' c || is 'E' c then some (.exp, l)
      else none
  | .point => if c.isDigit then some (.frac, { l with frac := some [c] }) else none
  | .frac =>
      if c.isDigit then some (.frac, { l with frac := l.frac.map (· ++ [c]) })
      else if is 'e' c || is 'E' c then some (.exp, l)
      else none
  | .exp =>
      if is '-' c then some (.expSign true, l)
      else if is '+' c then some (.expSign false, l)
      else if c.isDigit then some (.expDigits, { l with exp := some ⟨none, [c]⟩ })
      else none
  | .expSign neg =>
      if c.isDigit then some (.expDigits, { l with exp := some ⟨some neg, [c]⟩ }) else none
  | .expDigits =>
      if c.isDigit then
        some (.expDigits, { l with exp := l.exp.map fun e => { e with digits := e.digits ++ [c] } })
      else none

/-- The phases in which everything read so far is a number. -/
def NumPhase.complete : NumPhase → Bool
  | .int | .frac | .expDigits => true
  | _ => false

/-- The number a complete lexeme denotes: an `int` without fraction and exponent. -/
def numberValue (l : FloatLexeme) : Except JsonError Json :=
  if l.frac = none ∧ l.exp = none then
    if l.int.length ≤ Json.maxIntDigits then
      .ok (.int (if l.neg then -(natOfDigits l.int : Int) else natOfDigits l.int))
    else .error .valueError
  else .ok (.float (PyFloat.ofLexeme l))

/-- A number ends: its longest complete part is converted first, and what was read
beyond that part is an error. -/
def finishNumber (phase : NumPhase) (l : FloatLexeme) (k : List Frame) :
    Except JsonError State :=
  match phase with
  | .minus => .error .jsonDecodeError
  | _ =>
      match numberValue l with
      | .error e => .error e
      | .ok v => if phase.complete then .ok (complete v k) else .error .jsonDecodeError

/-- A literal name has been read; numbers among them go through `parse_constant`. -/
def completeLiteral (cfg : Config) (v : Json) (k : List Frame) : Except JsonError State :=
  match v with
  | .float _ => if cfg.allowConstants then .ok (complete v k) else .error .valueError
  | _ => .ok (complete v k)

/-- One step of the machine. -/
def step (cfg : Config) (st : State) (c : CodePoint) : Except JsonError State :=
  match st.mode with
  | .value => if isSpace c then .ok st else stepValue cfg st.stack c
  | .firstItem =>
      if isSpace c then .ok st
      else
        match is ']' c, st.stack with
        | true, .items _ :: k => .ok (complete (.arr []) k)
        | _, k => stepValue cfg k c
  | .firstKey =>
      if isSpace c then .ok st
      else if is '"' c then .ok ⟨.string ⟨[], false, .none⟩, st.stack⟩
      else
        match is '}' c, st.stack with
        | true, .key _ :: k => .ok (complete (.obj []) k)
        | _, _ => .error .jsonDecodeError
  | .nextKey =>
      if isSpace c then .ok st
      else if is '"' c then .ok ⟨.string ⟨[], false, .none⟩, st.stack⟩
      else .error .jsonDecodeError
  | .colon =>
      if isSpace c then .ok st
      else if is ':' c then .ok ⟨.value, st.stack⟩
      else .error .jsonDecodeError
  | .after | .done _ => stepAfter st c
  | .string s => stepString s st.stack c
  | .literal rest v =>
      match rest with
      | [] => .error .jsonDecodeError
      | r :: rest' =>
          if r = c then
            if rest' = [] then completeLiteral cfg v st.stack
            else .ok ⟨.literal rest' v, st.stack⟩
          else .error .jsonDecodeError
  | .number phase l =>
      match stepNumber phase l c with
      | some (phase', l') => .ok ⟨.number phase' l', st.stack⟩
      | none =>
          match phase, is 'I' c with
          | .minus, true => .ok ⟨.literal "nfinity" (.float (.inf true)), st.stack⟩
          | _, _ =>
              match finishNumber phase l st.stack with
              | .error e => .error e
              | .ok st' => stepAfter st' c

/-- The end of the text. -/
def finish (st : State) : Except JsonError Json :=
  match st.mode with
  | .done v => .ok v
  | .number phase l =>
      match finishNumber phase l st.stack with
      | .error e => .error e
      | .ok ⟨.done v, _⟩ => .ok v
      | .ok _ => .error .jsonDecodeError
  | _ => .error .jsonDecodeError

/-- Read the rest of a text. -/
def run (cfg : Config) (st : State) : PyStr → Except JsonError Json
  | [] => finish st
  | c :: cs =>
      match step cfg st c with
      | .error e => .error e
      | .ok st' => run cfg st' cs

end JsonLoads

/-- `json.loads(text)`, which refuses a byte order mark and then parses one value up to the end of
the text. -/
def loads (cfg : JsonLoads.Config) (text : PyStr) : Except JsonError Json :=
  if text.head? = some (Fin.ofNat _ 0xfeff) then .error .jsonDecodeError
  else JsonLoads.run cfg JsonLoads.start text

end EventPipeline.Python
