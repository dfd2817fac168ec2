import SatFrontend.Backend.Command

namespace SatFrontend.Kernel

open Text (Bytes)

-- How a file is opened.
inductive Mode where
  | read
  -- what was there before is lost
  | write
  | append
  | readWrite
  -- nothing may have been there before
  | create
deriving DecidableEq, Repr

-- What a process does when a signal comes.
inductive Disposition where
  | usual
  | ignored
  -- it takes note and goes on
  | caught
deriving DecidableEq, Repr

-- What comes of waiting for a child.
inductive Waited where
  | child (id : Nat) (exit : Exit)
  | noChild
  -- a signal came first that is caught
  | interrupted
deriving DecidableEq, Repr

-- What a process can ask of the system it runs on.
inductive Request where
  -- nothing but to be asked to go on
  | pause
  | read (descriptor count : Nat)
  | write (descriptor : Nat) (bytes : Bytes)
  | openFile (descriptor : Nat) (path : Bytes) (mode : Mode)
  -- make a text readable from a descriptor
  | supply (descriptor : Nat) (bytes : Bytes)
  | pipe
  | duplicate (source target : Nat)
  -- keep a copy of a descriptor out of the way
  | setAside (descriptor : Nat)
  | close (descriptor : Nat)
  -- for the next child to end
  | wait (interruptible : Bool)
  | signal (process number : Nat)
  | dispose (number : Nat) (d : Disposition)
  -- which caught signals have come since this was last asked
  | arrived
  -- another program takes over the process
  | become
  | inspect (path : Bytes)
  | locate (path : Bytes)
  | list (path : Bytes)
  | enter (path : Bytes)
  -- the process and its parent
  | ids
deriving DecidableEq, Repr

-- What the answer to a request is.
@[reducible] def Request.Reply : Request → Type
  | pause | supply .. | close .. | dispose .. | become => Unit
  | read .. => Except IoError Bytes
  | write .. | openFile .. | duplicate .. => Except IoError Unit
  | pipe => Nat × Nat
  | setAside .. => Option Nat
  | wait .. => Waited
  | signal .. => Bool
  | arrived => List Nat
  | inspect .. => Except IoError FileEntry
  | locate .. => Except IoError Location
  | list .. => List Bytes
  | enter .. => Except IoError Location
  | ids => Nat × Nat

-- What a process does, up to its end.
inductive Process where
  | ends (exit : Exit)
  | ask (request : Request) (next : request.Reply → Process)
  -- start a child, which gets a copy of all descriptors
  | fork (child : Unit → Process) (next : Nat → Process)

end SatFrontend.Kernel
