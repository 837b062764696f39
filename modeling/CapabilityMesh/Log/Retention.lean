/-
Folders of past runs and how long they are kept.  A run's folder is named by
the time at which the run began.
-/
import CapabilityMesh.Log.Entry
import CapabilityMesh.Text.Split
import CapabilityMesh.Wire.Timestamp

namespace CapabilityMesh

namespace LogRun

open Timestamp in
/-- Read year, month, day, an underscore, hour, minute and second. -/
def readStamp (cs : List Char) : Except TimestampFault Timestamp := do
  let (year, cs) ← readYear cs
  let (month, cs) ← readField 2 1 12 cs
  let (day, cs) ← readField 2 1 31 cs
  let cs ← match cs with
    | '_' :: rest => .ok rest
    | [] => .error .tooShort
    | _ => .error .invalid
  let (hour, cs) ← readField 2 0 23 cs
  let (minute, cs) ← readField 2 0 59 cs
  let (second, cs) ← readField 2 0 60 cs
  if !cs.isEmpty then .error .tooLong
  let date : Date := ⟨year, month, day⟩
  if !(date.isValid && yearInRange year) then .error .outOfRange
  let (second, nano) := if second = 60 then (59, 1000000000) else (second, 0)
  .ok ⟨date.toDays * 86400 + hour * 3600 + minute * 60 + second, nano⟩

def stamp? (folder : String) : Option Timestamp :=
  (Text.behind? "run_".toList folder.toList).bind fun cs => (readStamp cs).toOption

end LogRun

/-- Something in a folder of logs. -/
structure LogItem where
  name : String
  isFolder : Bool
  /-- Why the system does not remove it. -/
  refusal : Option String := none
deriving Repr, DecidableEq

namespace LogItem

/-- The time at which a run began, if this is its folder. -/
def stamp? (item : LogItem) : Option Timestamp :=
  if item.isFolder then LogRun.stamp? item.name else none

end LogItem

/-- What the system shows of a folder of logs. -/
inductive LogFolder where
  | missing
  | unreadable (reason : String)
  | readable (items : List LogItem)
deriving Repr, DecidableEq

/-- What a cleanup leaves, how many folders it removed, and what it logs. -/
structure LogCleanup where
  left : List LogItem
  removed : Nat
  log : Log
deriving Repr, DecidableEq

/-- Why a cleanup ends early. -/
inductive CleanupFault where
  /-- The first time that is still recent lies outside the calendar. -/
  | outsideCalendar
  | unreadable (reason : String)
deriving Repr, DecidableEq

namespace Timestamp

/-- Whether one point in time is not before another. -/
def atLeast (a b : Timestamp) : Bool :=
  b.second < a.second || (b.second == a.second && b.nano ≤ a.nano)

end Timestamp

namespace LogRetention

/-- How many days a count of 64 bits goes back.  It is read as signed. -/
def daysBack (days : Nat) : Int :=
  if days < 0x8000000000000000 then days else (days : Int) - UInt64.size

/-- The first time that is still recent: `days` before now.  There is none if
that distance or that time lies outside the calendar. -/
def cutoff? (now : Timestamp) (days : Nat) : Option Timestamp :=
  let seconds := daysBack days * 86400
  if (0x8000000000000000 - 1) / 1000 < seconds.natAbs then none
  else
    let second := now.second - seconds
    if Timestamp.yearInRange (Date.ofDays (second / 86400)).year then
      some ⟨second, now.nano⟩
    else none

/-- Put a run among others, the newest first. -/
def insertRun (run : LogItem × Timestamp) :
    List (LogItem × Timestamp) → List (LogItem × Timestamp)
  | [] => [run]
  | first :: rest =>
      if first.2.atLeast run.2 then first :: insertRun run rest
      else run :: first :: rest

def addRun (runs : List (LogItem × Timestamp)) (item : LogItem) :
    List (LogItem × Timestamp) :=
  match item.stamp? with
  | some stamp => insertRun (item, stamp) runs
  | none => runs

/-- The folders of runs among the items of a folder, the newest first. -/
def runs (items : List LogItem) : List (LogItem × Timestamp) :=
  items.foldl addRun []

/-- The folders to remove: those before the cutoff, and of the others all but
the newest `keep`. -/
def expired (cutoff : Timestamp) (keep : Nat) (runs : List (LogItem × Timestamp)) :
    List LogItem :=
  (runs.zipIdx.filter fun (run, index) =>
    !(run.2.atLeast cutoff && index < keep)).map fun (run, _) => run.1

def pathOf (path : String) (item : LogItem) : String :=
  if path.toList.getLast? = some '/' then path ++ item.name else path ++ "/" ++ item.name

/-- Remove some items of a folder.  What the system does not remove is logged. -/
def remove (path : String) (gone items : List LogItem) : LogCleanup where
  left := items.filter fun item => !(gone.contains item && item.refusal.isNone)
  removed := gone.countP fun item => item.refusal.isNone
  log := gone.filterMap fun item => item.refusal.map fun reason =>
    LogEntry.warn ("Failed to remove old log directory " ++ pathOf path item ++ ": " ++ reason)

/-- Remove the folders of old runs from the folder with a path.  One that does
not exist needs no cutoff. -/
def clean (now : Timestamp) (days keep : Nat) (path : String) (folder : LogFolder) :
    Except CleanupFault LogCleanup :=
  match folder, cutoff? now days with
  | .missing, _ => .ok { left := [], removed := 0, log := [] }
  | _, none => .error .outsideCalendar
  | .unreadable reason, some _ => .error (.unreadable reason)
  | .readable items, some cutoff => .ok (remove path (expired cutoff keep (runs items)) items)

end LogRetention

end CapabilityMesh
