import Clearance.Settings.Load

/-!
# Installing the log

A process has one log at most. The filter comes from the override of the process if that is set
and can be read, and else from the settings. The first configuration whose filter can be read
installs the log; after that nothing changes it.
-/

namespace Clearance

structure InstalledLog where
  filter : Filter
  json : Bool
deriving DecidableEq, Repr

namespace InstalledLog

/-- The filter of the override, if there is one that can be read. An empty one lets nothing
pass. -/
def overrideFilter? (given : Variable) : Option Filter :=
  (given.bind String.fromUTF8?).bind fun s => (Filter.read s).toOption

def chooseFilter (given : Variable) (c : LoggingConfig) : Except ConfigError Filter :=
  match overrideFilter? given with
  | some f => .ok f
  | none => c.filter

/-- Installs a log unless there is one; gives the result and the log afterwards. -/
def install (installed : Option InstalledLog) (given : Variable) (c : LoggingConfig) :
    Except ConfigError Unit × Option InstalledLog :=
  match chooseFilter given c with
  | .error e => (.error e, installed)
  | .ok f =>
      match installed with
      | some log => (.error (.validation .installed), some log)
      | none => (.ok (), some ⟨f, c.json⟩)

def installAll : Option InstalledLog → List (Variable × LoggingConfig) →
    List (Except ConfigError Unit) × Option InstalledLog
  | installed, [] => ([], installed)
  | installed, (given, c) :: rest =>
      let (result, after) := install installed given c
      let (results, last) := installAll after rest
      (result :: results, last)

def lines (log : InstalledLog) (notices : List Notice) : List Document :=
  (log.filter.apply (notices.map Notice.entry)).map fun e =>
    if log.json then e.jsonLine else .text e.textLine

end InstalledLog

end Clearance
