import EdgeCache.Builtin.Basic
import EdgeCache.Text.Pieces

/-!
Functions that check what a test expects. Each takes a last text that stands for its own message.
-/

namespace EdgeCache.Builtin

open Arguments

def expect (passed : Bool) (found : Value) (message : Option Value) (standard : String) :
    Except FunctionError Unit :=
  if passed then .ok ()
  else .error (.assertion found.text ((message.bind Value.string?).getD standard))

def argument (args : List Value) (i : Nat) : Value := args[i]?.getD .null

def looselyEqual (l r : Value) : Bool :=
  match l.kind == r.kind, l.equal? r with
  | true, .ok b => b
  | _, _ => l.text == r.text

def strictlyEqual (l r : Value) : Bool :=
  l.kind == r.kind && (match l.equal? r with | .ok b => b | .error _ => false)

def testing (name : String) (required optional : List Parameter)
    (f : Context → List Value → Except FunctionError Unit) : Builtin :=
  { make name required optional (fun _ args => do Stop.lift (f (← get) args); return .null) with
    isStatement := true, isTesting := true }

def asserting (name : String) (required : List Parameter) (passed : List Value → Bool)
    (standard : List Value → String) : Builtin :=
  testing name required [.string] fun _ args =>
    expect (passed args) (argument args 0) args[required.length]? (standard args)

def assertingTexts (name verb : String) (passed : List Char → List Char → Bool) : Builtin :=
  asserting name [.string, .string] (fun args => passed (chars args 0) (chars args 1)) fun args =>
    s!"{Quoted.quote (string args 0)} should {verb} {Quoted.quote (string args 1)}"

def assertingMatch (name verb : String) (wanted : Bool) : Builtin :=
  testing name [.string, .string] [.string] fun _ args =>
    let pattern := string args 1
    match Pattern.ofText pattern with
    | .error e => .error (.testing name (ValueError.invalidPattern pattern e).message)
    | .ok p =>
      expect (p.isMatch (string args 0) == wanted) (argument args 0) args[2]?
        s!"{Quoted.quote (string args 0)} should {verb} {Quoted.quote pattern}"

def typedText (v : Value) : String := s!"{v.kind.text} {v.text}"

def endedInRestart (c : Context) (args : List Value) : Except FunctionError Unit :=
  expect (c.ending == some .restart) .null args[0]? "subroutine should end with restart"

def endedInError (c : Context) (args : List Value) : Except FunctionError Unit :=
  let code := integer args 0
  let response := (args[1]?).bind Value.string?
  let standard :=
    s!"subroutine should raise error {code.toInt}" ++
      ((response.map fun r => s!" {Quoted.quote r}").getD "")
  match c.ending with
  | some (.error status text) =>
    expect (status == code && response.all (· == text)) (.ofString s!"{status.toInt} {text}")
      args[2]? standard
  | _ => expect false .null args[2]? standard

def assertions : List Builtin :=
  [asserting "assert" [.bool] (bool · 0) fun _ => "value should be true",
    asserting "assert.true" [.bool] (bool · 0) fun _ => "value should be true",
    asserting "assert.false" [.bool] (fun args => !bool args 0) fun _ => "value should be false",
    asserting "assert.null" [.anything] (fun args => (argument args 0).isUnset) fun args =>
      s!"value should be null but got {Quoted.quote (argument args 0).text}",
    asserting "assert.not_null" [.anything] (fun args => !(argument args 0).isUnset) fun _ =>
      "value should not be null",
    asserting "assert.equal" [.anything, .anything]
      (fun args => looselyEqual (argument args 0) (argument args 1)) fun args =>
      s!"value should be equal to {(argument args 1).text} but got {(argument args 0).text}",
    asserting "assert.not_equal" [.anything, .anything]
      (fun args => !looselyEqual (argument args 0) (argument args 1)) fun args =>
      s!"value should not be equal to {(argument args 1).text}",
    asserting "assert.strict_equal" [.anything, .anything]
      (fun args => strictlyEqual (argument args 0) (argument args 1)) fun args =>
      s!"value should be {typedText (argument args 1)} but got {typedText (argument args 0)}",
    asserting "assert.not_strict_equal" [.anything, .anything]
      (fun args => !strictlyEqual (argument args 0) (argument args 1)) fun args =>
      s!"value should not be {typedText (argument args 1)}",
    assertingMatch "assert.match" "match" true,
    assertingMatch "assert.not_match" "not match" false,
    assertingTexts "assert.contains" "contain" fun s part => Pieces.containsPart part s,
    assertingTexts "assert.not_contains" "not contain" fun s part => !Pieces.containsPart part s,
    assertingTexts "assert.starts_with" "start with" fun s part => part.isPrefixOf s,
    assertingTexts "assert.ends_with" "end with" fun s part => part.reverse.isPrefixOf s.reverse,
    testing "assert.restart" [] [.string] endedInRestart,
    testing "assert.error" [.integer] [.string, .string] endedInError]

end EdgeCache.Builtin
