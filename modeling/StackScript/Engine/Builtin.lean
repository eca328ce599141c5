import StackScript.Engine.Control

set_option autoImplicit false

namespace StackScript.Builtin

open Step

def binary (operation : Int32 → Int32 → Int32) : Step Unit := do
  let right ← pop
  let left ← pop
  push (operation left right)

def nonzeroDivisor : Step Unit := do
  if (← peek 0) = 0 then fail .divisionByZero else return ()

-- The text up to the first `]`, even when another `[` comes before it.
def bodyOf? (rest : Text) : Option Text :=
  if rest.contains ']' then some (rest.takeWhile (· != ']')) else none

def captureBody : Step Unit := do
  let start ← cursor
  match bodyOf? (← frameRest) with
  | none => fail .unterminatedQuotation
  | some body =>
    let span : Span := { start := start, length := body.size }
    setCursor (span.stop + 1)
    let handle ← capture span
    note (.captured handle body)
    push handle

-- A handle that stands for nothing is dropped.
def callee : Step (Option Span) := do
  let handle ← pop
  match ← quotation? handle with
  | some body =>
    note (.calling handle)
    return some body
  | none =>
    note (.missing handle)
    return none

def callQuotation (read : Span → Step Unit) : Step Unit := do
  match ← callee with
  | some body => read body
  | none => return ()

def invoke (read : Span → Step Unit) : Builtin → Step Unit
  | add => binary (· + ·)
  | subtract => binary (· - ·)
  | multiply => binary (· * ·)
  | divide => do
    nonzeroDivisor
    binary (· / ·)
  | remainder => do
    nonzeroDivisor
    binary (· % ·)
  | drop => do
    let _ ← pop
  | duplicate => do
    push (← peek 0)
  | swap => do
    let top ← pop
    let second ← pop
    push top
    push second
  | copySecond => do
    push (← peek 1)
  | dropSecond => do
    let top ← pop
    let _ ← pop
    push top
  | rotate => do
    let top ← pop
    let second ← pop
    let third ← pop
    push second
    push top
    push third
  | quote => captureBody
  | call => callQuotation read
  | print => do
    write (decimal (← pop).toInt ++ ['\n'])
  | halt => Step.halt

end StackScript.Builtin
