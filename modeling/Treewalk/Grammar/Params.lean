/-
Parameter lists of functions and anonymous functions.
-/
import Treewalk.Grammar.Parse
import Treewalk.Syntax.Source

namespace Treewalk.Grammar

open Parse

/-- How expressions are read, by the loosest precedence allowed. -/
abbrev Rec := Precedence → Parse Expr

/-- An item that may stand behind a star. -/
def starItem (self : Rec) (plain : Parse Expr) : Parse Expr := do
  if ← takeOp "*" then return .starred (← self .bitOr) .load else plain

/-- Parameters read so far. A lone star needs a parameter behind it, and nothing comes behind a double star. -/
structure ParamState where
  positionalOnly : List Param := []
  positional : List Param := []
  defaults : List Expr := []
  rest : Option Param := none
  keywordOnly : List Param := []
  keywordDefaults : List (Option Expr) := []
  keywordRest : Option Param := none
  starred : Bool := false
  loneStar : Bool := false
  finished : Bool := false

namespace ParamState

def params (s : ParamState) : Params :=
  .mk s.positionalOnly s.positional s.rest s.keywordOnly s.keywordDefaults s.keywordRest s.defaults

/-- Adds a plain parameter; behind a positional default only parameters with defaults may follow. -/
def addPlain (s : ParamState) (p : Param) (default : Option Expr) : Option ParamState :=
  if s.starred then
    some { s with keywordOnly := s.keywordOnly ++ [p], keywordDefaults := s.keywordDefaults ++ [default],
                  loneStar := false }
  else
    match default with
    | some d => some { s with positional := s.positional ++ [p], defaults := s.defaults ++ [d] }
    | none => if s.defaults.isEmpty then some { s with positional := s.positional ++ [p] } else none

/-- Makes the parameters so far positional only. -/
def addSlash (s : ParamState) : Option ParamState :=
  if s.starred || !s.positionalOnly.isEmpty || s.positional.isEmpty then none
  else some { s with positionalOnly := s.positional, positional := [] }

end ParamState

/-- The type hint of a parameter; behind a starred one it may be starred itself. -/
def paramHint (self : Rec) (starHint : Bool) : Parse Expr := do
  if starHint then starItem self (self .test) else self .test

/-- A parameter with its type hint, where hints are allowed. -/
def param (self : Rec) (hinted starHint : Bool) : Parse Param := do
  let n ← name
  if hinted then
    if ← takeOp ":" then return .mk n (some (← paramHint self starHint)) else return .mk n none
  else return .mk n none

/-- One item of a parameter list. -/
def paramItem (self : Rec) (hinted : Bool) (s : ParamState) : Parse ParamState := do
  if s.finished then failure
  else if ← takeOp "**" then
    if s.loneStar then failure
    else return { s with keywordRest := some (← param self hinted false), finished := true }
  else if ← takeOp "*" then
    if s.starred then failure
    else if ← nextIsOp "," then return { s with starred := true, loneStar := true }
    else return { s with starred := true, rest := some (← param self hinted true) }
  else if ← takeOp "/" then
    match s.addSlash with
    | some s => return s
    | none => failure
  else
    let p ← param self hinted false
    let default ← if ← takeOp "=" then some <$> self .test else pure none
    match s.addPlain p default with
    | some s => return s
    | none => failure

/-- A parameter list up to its closing token, which is left. -/
def paramList (self : Rec) (hinted : Bool) (closing : String) : Parse Params := do
  let s ← repeatWhile (fun (s : ParamState) => do
    if ← nextIsOp closing then return none
    else
      let s ← paramItem self hinted s
      if ← takeOp "," then return some s
      else if ← nextIsOp closing then return some s
      else failure) {}
  if s.loneStar then failure else return s.params

end Treewalk.Grammar
