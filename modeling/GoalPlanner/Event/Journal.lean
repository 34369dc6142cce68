import GoalPlanner.Document.Place
import GoalPlanner.Event.Bus

/-!
# Journals

A journal is a subscriber that writes every event to a file, one line for each (`Archive.text`). Several journals may
write to one file, and a journal that is opened later goes on where the file ends. Journals stand beside subscribers of
other kinds, which have names (`Subscriber`).
-/

namespace GoalPlanner

/-- Who may be subscribed. -/
inductive Subscriber
  | named (name : String)
  /-- A journal, by the order of opening, and where it is written. -/
  | journal (number : Nat) (path : List String)
  deriving DecidableEq

namespace Subscriber

/-- The subscriber in the log. -/
protected def toString : Subscriber → String
  | named name => "<subscriber " ++ name ++ ">"
  | journal _ path => "<journal " ++ "/".intercalate path ++ ">"

instance : ToString Subscriber := ⟨Subscriber.toString⟩

end Subscriber

/-- How a journal behaves: it fails on events that have no line. -/
def journalBehaviour : Behaviour Subscriber := ⟨fun e => e.line?.isNone, [], []⟩

/-- A bus and the files that its journals have opened. -/
structure Archive where
  bus : Bus Subscriber
  /-- The files, by the parts of their paths, in the order of opening. -/
  files : List (List String)
  /-- The directories that were made for files. -/
  directories : List (List String)

namespace Archive

open Document (FileError Found Place reach)

/-- A bus without subscriptions, and no files. -/
def empty : Archive := ⟨.empty, [], []⟩

/-- The line that a delivery leaves in a file. -/
def lineIn (path : List String) (d : Delivery Subscriber) : String :=
  match d.subscriber with
  | .journal _ p => if p = path then d.event.line?.getD "" else ""
  | .named _ => ""

/-- What stands in a file. -/
def text (a : Archive) (path : List String) : String := String.join (a.bus.deliveries.map (lineIn path))

/-- What stands at a path without steps back. -/
def look (a : Archive) (path : List String) : Found Unit :=
  if a.files.contains path then .file ()
  else if Document.isAbove path || a.directories.contains path then .directory
  else .nothing

/-- Makes a directory unless there is one. -/
def makeDirectory (a : Archive) (parts : List String) : Except FileError Archive := do
  let path ← reach a.look ⟨"", parts⟩
  match a.look path with
  | .directory => return a
  | .file _ => .error .occupied
  | .beyond => .error .tooLong
  | .nothing => return { a with directories := a.directories ++ [path] }

/-- Makes a directory and those on the way to it, given by its parts from the last to the first. What was made stays
even if the rest cannot be made. -/
def makeWay (a : Archive) : List String → Except FileError Unit × Archive
  | [] => (.ok (), a)
  | part :: above =>
    let parts := (part :: above).reverse
    match a.makeDirectory parts with
    | .ok b => (.ok (), b)
    | .error .missing =>
      match a.makeWay above with
      | (.error e, b) => (.error e, b)
      | (.ok (), b) =>
        match b.makeDirectory parts with
        | .ok c => (.ok (), c)
        | .error e => (.error e, b)
    | .error e => (.error e, a)

/-- Adds a journal that writes to the file at a path. -/
def addJournal (a : Archive) (path : List String) : Subscriber × Archive :=
  let journal := Subscriber.journal a.files.length path
  (journal, { a with
    bus := (a.bus.behave journal journalBehaviour).subscribe journal
    files := a.files ++ [path] })

/-- Opens a journal; the directories above it are made as needed. -/
def openJournal (a : Archive) (parts : List String) : Except FileError Subscriber × Archive :=
  match a.makeWay parts.dropLast.reverse with
  | (.error e, a) => (.error e, a)
  | (.ok (), a) =>
    match reach a.look ⟨"", parts⟩ with
    | .error e => (.error e, a)
    | .ok path =>
      match a.look path with
      | .directory => (.error .isDirectory, a)
      | _ => let (journal, a) := a.addJournal path; (.ok journal, a)

/-- Closes a journal. -/
def close (a : Archive) (journal : Subscriber) : Archive := { a with bus := a.bus.unsubscribe journal }

/-- Reads a file. -/
def read (a : Archive) (parts : List String) : Except FileError String := do
  let path ← reach a.look ⟨"", parts⟩
  match a.look path with
  | .nothing => .error .missing
  | .beyond => .error .tooLong
  | .directory => .error .isDirectory
  | .file _ => return a.text path

end Archive

end GoalPlanner
