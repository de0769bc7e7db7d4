import ProxySync.Shell.Process

/-!
# Leaving commands

Loops and functions are left by taking frames off the stack. A frame that
holds something to be put back does so when it is taken off, however it is
left. A shell that ends runs its last trap first.
-/

namespace ProxySync.Shell

namespace Act

/-! ## Saying what went wrong -/

/-- Says something after the name of the shell and the line. -/
def complainPlainly (text : String) : Act Unit := do
  let s ← session
  tell 2 (s.name ++ ": " ++ toString s.line ++ ": " ++ text ++ "\n")

/-- Says something of a command, after where the command comes from. -/
def complain (text : String) : Act Unit := do complainPlainly ((← self).context ++ text)

/-! ## Putting back -/

/-- Puts back descriptors that have been moved away. -/
def restoreDescriptors (saved : List (Nat × Option Nat)) : Act Unit :=
  saved.forM fun (descriptor, kept?) => do
    match kept? with
    | none => close descriptor
    | some kept => do
      let id := (← self).files.lookup kept
      setDescriptor descriptor id
      close kept

def restoreVariables (saved : List (String × Option Variable)) : Act Unit :=
  changeSession fun s => saved.foldl (fun s (name, v?) => match v? with
    | some v => s.put name v
    | none => s.unset name) s

/-- Does what has to be done when a frame is taken off. -/
def putBack (f : Frame) : Act Unit := do
  match f with
  | .restore saved => restoreDescriptors saved
  | .forget saved => restoreVariables saved
  | .leave arguments saved => do
    restoreVariables saved
    changeSession fun s => { s with arguments := arguments }
  | .values _ _ _ _ saved => restoreVariables saved
  | .collect descriptor _ _ => close descriptor
  | _ => pure ()

/-- Takes frames off until `isLast` holds of the next one, or none is left. -/
def unwindUntil (isLast : Frame → Bool) : Act Unit := do
  let stack := (← self).stack
  let gone := stack.takeWhile (!isLast ·)
  changeSelf fun p => { p with stack := stack.drop gone.length }
  gone.forM putBack

/-! ## Ending the shell -/

/-- The text of commands as a source that knows what the session knows. -/
def sourceOf (text : String) : Act Source := do
  let s ← session
  pure {
    rest := text.toList, line := 1, documents := s.documents, nextDocument := s.nextDocument
    aliases := s.aliases }

/-- Ends the shell with a status, after the trap for its end. -/
def exitShell (status : Nat) : Act Unit := do
  unwindUntil fun _ => false
  let s ← session
  match s.traps.lookup 0 with
  | some action =>
    changeSession fun s => { s with traps := s.traps.filter (·.1 != 0), status := status }
    push (.exiting status)
    push (.source (← sourceOf action) .trap false)
  | none => finish (.exited (status % 256))

/-- Ends the shell over a fault in what it was told. -/
def giveUp (text : String) : Act Unit := do
  complain text
  exitShell 2

end Act

/-! ## Loops and functions -/

/-- The frame of a loop that is being run. -/
def Frame.isLoop : Frame → Bool
  | .loopTested .. | .loopDone .. | .each .. => true
  | _ => false

def Frame.isCall : Frame → Bool
  | .leave .. => true
  | _ => false

namespace Act

/-- How many loops are being run in this function. -/
def loopCount : Act Nat := do
  let stack := (← self).stack
  let inside := stack.takeWhile (!Frame.isCall ·)
  let own := (inside.filter Frame.isLoop).length
  let inherited := (← session).loops
  pure (if inside.length == stack.length then own + inherited else own)

/-- Goes to the `n`th loop around, whose frame stays. -/
def unwindToLoop : (n : Nat) → Act Unit
  | 0 => pure ()
  | n + 1 => do
    unwindUntil Frame.isLoop
    if n != 0 then
      pop
      unwindToLoop n

/-- Leaves the `n`th loop around. Where there is none, nothing happens. -/
def breakLoop (n : Nat) : Act Unit := do
  let count ← loopCount
  setStatus 0
  if count != 0 then
    unwindToLoop (min n count)
    pop

/-- Goes on with the next round of the `n`th loop around. -/
def continueLoop (n : Nat) : Act Unit := do
  let count ← loopCount
  setStatus 0
  if count != 0 then
    unwindToLoop (min n count)
    match (← self).stack with
    | .loopTested l _ :: _ => replaceTop (.loopDone l)
    | _ => pure ()

/-- Leaves the function or the file of commands that is being run, or ends
the script. -/
def returnWith (status : Nat) : Act Unit := do
  setStatus status
  let isLast : Frame → Bool
    | .leave .. | .source _ (.file _) _ => true
    | _ => false
  unwindUntil isLast
  match (← self).stack with
  | .source _ (.file _) _ :: _ => pop
  | _ => pure ()

end Act

end ProxySync.Shell
