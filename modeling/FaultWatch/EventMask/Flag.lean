/-
  FaultWatch/EventMask/Flag.lean
  ==============================
  **The events an agent can ask the runtime for.**

  Each event has a name and one bit of a 32-bit word. The positions are the
  runtime's and leave gaps, so not every bit of a word has a name. The flags are
  listed in the order of their positions; that is the order in which a mask
  prints them.
-/
import FaultWatch.Text.Numeral

namespace FaultWatch

inductive EventFlag where
  | functionUnloads
  | classLoads
  | moduleLoads
  | assemblyLoads
  | appDomainLoads
  | jitCompilation
  | exceptions
  | garbageCollection
  | objectAllocated
  | threads
  | remoting
  | codeTransitions
  | enterLeave
  | comWrappers
  | suspends
  | cacheSearches
  | clrExceptions
deriving DecidableEq, Repr

namespace EventFlag

/-- All flags, by ascending position. -/
def all : List EventFlag :=
  [functionUnloads, classLoads, moduleLoads, assemblyLoads, appDomainLoads, jitCompilation,
    exceptions, garbageCollection, objectAllocated, threads, remoting, codeTransitions,
    enterLeave, comWrappers, suspends, cacheSearches, clrExceptions]

theorem mem_all (f : EventFlag) : f ∈ all := by cases f <;> decide

/-- The position of the flag's bit in the runtime's word. -/
def position : EventFlag → Nat
  | functionUnloads => 0
  | classLoads => 1
  | moduleLoads => 2
  | assemblyLoads => 3
  | appDomainLoads => 4
  | jitCompilation => 5
  | exceptions => 6
  | garbageCollection => 7
  | objectAllocated => 8
  | threads => 9
  | remoting => 10
  | codeTransitions => 11
  | enterLeave => 12
  | comWrappers => 13
  | suspends => 16
  | cacheSearches => 17
  | clrExceptions => 24

def name : EventFlag → Text
  | functionUnloads => "MONITOR_FUNCTION_UNLOADS".toList
  | classLoads => "MONITOR_CLASS_LOADS".toList
  | moduleLoads => "MONITOR_MODULE_LOADS".toList
  | assemblyLoads => "MONITOR_ASSEMBLY_LOADS".toList
  | appDomainLoads => "MONITOR_APPDOMAIN_LOADS".toList
  | jitCompilation => "MONITOR_JIT_COMPILATION".toList
  | exceptions => "MONITOR_EXCEPTIONS".toList
  | garbageCollection => "MONITOR_GC".toList
  | objectAllocated => "MONITOR_OBJECT_ALLOCATED".toList
  | threads => "MONITOR_THREADS".toList
  | remoting => "MONITOR_REMOTING".toList
  | codeTransitions => "MONITOR_CODE_TRANSITIONS".toList
  | enterLeave => "MONITOR_ENTERLEAVE".toList
  | comWrappers => "MONITOR_CCW".toList
  | suspends => "MONITOR_SUSPENDS".toList
  | cacheSearches => "MONITOR_CACHE_SEARCHES".toList
  | clrExceptions => "MONITOR_CLR_EXCEPTIONS".toList

/-- The flag written under exactly this name. -/
def ofName? (s : Text) : Option EventFlag := all.find? (·.name = s)

theorem position_lt (f : EventFlag) : f.position < 32 := by cases f <;> decide

theorem position_injective {f g : EventFlag} (h : f.position = g.position) : f = g := by
  have apart : ∀ f ∈ all, ∀ g ∈ all, f.position = g.position → f = g := by decide +kernel
  exact apart f (mem_all f) g (mem_all g) h

/-- **A name finds its flag**: no two flags share a name. -/
theorem ofName?_name (f : EventFlag) : ofName? f.name = some f := by cases f <;> decide

end EventFlag

end FaultWatch
