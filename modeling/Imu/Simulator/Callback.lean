import Imu.Simulator.Board
import Imu.System

/-!
A simulated run: the update callbacks, and a system of simulated boards as it is when the
power comes on. Callbacks that raise a further edge on their own latch do so only while few
enough callbacks are running, so each stands for a finite script.
-/

namespace Imu.Simulator

inductive Callback where
  | log
  | consume
  | remove
  | swap
  | timing
  | reenter
  | timed
  deriving DecidableEq

namespace Callback

def name : Callback → String
  | log => "log"
  | consume => "consume"
  | remove => "remove"
  | swap => "swap"
  | timing => "timing"
  | reenter => "reenter"
  | timed => "timed"

def all : List Callback := [log, consume, remove, swap, timing, reenter, timed]

/-- How many callbacks may be running when one that raises an edge is entered. -/
def depth : Nat := 2

/-- What a callback does to its latch, with the given number of edges still allowed below it. -/
def script (latch : Nat) : Nat → Callback → Script Callback
  | _, log => .done
  | _, consume => .act latch .consume .done
  | _, remove => .act latch (.install none) .done
  | _, swap => .act latch (.install (some log)) .done
  | _, timing => .act latch .inspect .done
  | 0, reenter | 0, timed => .done
  | allowed + 1, reenter => .edge latch false (fun callback => script latch allowed callback) .done
  | allowed + 1, timed => .edge latch true (fun callback => script latch allowed callback) .done

/-- What the callback does when it is run by an edge from outside. -/
def reaction (latch : Nat) (callback : Callback) : Script Callback := script latch depth callback

end Callback

def onPrimary (chip : Chip) : SimulatedBoard := ⟨{ controller := chip }, {}⟩

/-- Units without a line and with default settings, the same board on every bus. -/
def powerUp (board : SimulatedBoard) : System SimulatedBoard Callback where
  gyros := Bank.fill (Gyro.fresh {} 0 false)
  lines := Bank.fill Line.unconnected
  buses := Bank.fill board
  signals := ⟨Bank.fill {}, Readings.constant 0⟩

/-- The first unit is identified on the first bus, which has no candidates. -/
def attempt : Operation SimulatedBoard Callback := .identify 0 0 .empty 0

end Imu.Simulator
