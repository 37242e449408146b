/-
Arguments of the extended pseudo-classes.

An argument may be a regular expression between slashes.  A plain argument is literal
text for `contains`, and wildcard syntax for `properties`.
-/
import CosmeticFilter.Expression.Wildcard

namespace CosmeticFilter

namespace Argument

/-- The pattern and the flags of `/pattern/flags`; the flags `i` and `m` are known. -/
def slashed? : List Char → Option (List Char × List Char)
  | '/' :: inner =>
    let backwards := inner.reverse
    let flags := (backwards.takeWhile (· != '/')).reverse
    match backwards.dropWhile (· != '/') with
    | '/' :: before =>
      if flags.all (fun c => c == 'i' || c == 'm') then some (before.reverse, flags) else none
    | _ => none
  | _ => none

/-- The text between a slash at the start and another at the end. -/
def enclosed? : List Char → Option (List Char)
  | '/' :: inner =>
    match inner.reverse with
    | '/' :: before => some before.reverse
    | _ => none
  | _ => none

/-- Braces are written as `\7B ` and `\7D `, with the space. -/
def readBraces : List Char → List Char
  | '\\' :: '7' :: 'B' :: ' ' :: rest => '\x7b' :: readBraces rest
  | '\\' :: '7' :: 'D' :: ' ' :: rest => '\x7d' :: readBraces rest
  | c :: rest => c :: readBraces rest
  | [] => []

/-- Source, case and line flags of the expression that a `contains` argument means. -/
def textExpression (argument : String) : String × Bool × Bool :=
  match slashed? argument.toList with
  | some (pattern, flags) => (String.ofList pattern, flags.contains 'i', flags.contains 'm')
  | none => (Regex.escape argument, false, false)

/-- The source of the expression that a `properties` argument means; case never matters. -/
def styleExpression (argument : String) : String :=
  match enclosed? argument.toList with
  | some inner => String.ofList (readBraces inner)
  | none => wildcardSource argument

end Argument

/-- Compiles the argument of `contains`. -/
def Regex.ofText? (argument : String) : Option Regex :=
  let (source, caseless, multiLine) := Argument.textExpression argument
  Regex.compile? source caseless multiLine

/-- Compiles the argument of `properties`. -/
def Regex.ofStyle? (argument : String) : Option Regex :=
  Regex.compile? (Argument.styleExpression argument) true false

end CosmeticFilter
