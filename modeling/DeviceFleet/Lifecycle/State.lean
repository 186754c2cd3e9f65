/-!
The states of a process from start to exit, and the moves between them:
initializing, running, shutting down, stopped; failed from any of the first three; and stopped
also directly from running.
-/

namespace DeviceFleet

inductive Lifecycle
  | initializing
  | running
  | shuttingDown
  | stopped
  | failed
  deriving DecidableEq, Repr

namespace Lifecycle

def all : List Lifecycle := [.initializing, .running, .shuttingDown, .stopped, .failed]

def name : Lifecycle → String
  | .initializing => "initializing"
  | .running => "running"
  | .shuttingDown => "shutting_down"
  | .stopped => "stopped"
  | .failed => "failed"

def isTerminal : Lifecycle → Bool
  | .stopped | .failed => true
  | _ => false

def canMoveTo : Lifecycle → Lifecycle → Bool
  | s, .failed => !s.isTerminal
  | .initializing, .running => true
  | .running, .shuttingDown => true
  | .running, .stopped => true
  | .shuttingDown, .stopped => true
  | _, _ => false

def successors (s : Lifecycle) : List Lifecycle := all.filter s.canMoveTo

end Lifecycle

end DeviceFleet
