import Santamon.Events.Value

namespace Santamon.State

open Santamon.Events

/-- The state store, modelled from the spec: `faults` lists the outcomes of the coming storage operations. -/
structure DB where
  windows : String → String → List EventMap
  firstSeen : String → String → Bool
  faults : List Bool

def DB.empty : DB := ⟨fun _ _ => [], fun _ _ => false, []⟩

/-- The outcome of the next storage operation. -/
def DB.attempt (db : DB) : Bool × DB :=
  match db.faults with
  | [] => (false, db)
  | b :: bs => (b, { db with faults := bs })

def storageError : String := "storage error"

def DB.setWindow (db : DB) (ruleID groupKey : String) (events : List EventMap) : DB :=
  { db with windows := fun r g => if r = ruleID ∧ g = groupKey then events else db.windows r g }

/-- Modelled from the spec: `store_window_event` appends the event to its bucket. -/
def DB.storeWindowEvent (db : DB) (ruleID groupKey : String) (e : EventMap) :
    Except String Unit × DB :=
  match db.attempt with
  | (true, db) => (.error storageError, db)
  | (false, db) => (.ok (), db.setWindow ruleID groupKey (db.windows ruleID groupKey ++ [e]))

/-- Modelled from the spec: `get_window_events` reads a bucket. -/
def DB.getWindowEvents (db : DB) (ruleID groupKey : String) : Except String (List EventMap) × DB :=
  match db.attempt with
  | (true, db) => (.error storageError, db)
  | (false, db) => (.ok (db.windows ruleID groupKey), db)

/-- Modelled from the spec: `replace_window_events` overwrites a bucket (`nil` clears it). -/
def DB.replaceWindowEvents (db : DB) (ruleID groupKey : String) (events : List EventMap) :
    Except String Unit × DB :=
  match db.attempt with
  | (true, db) => (.error storageError, db)
  | (false, db) => (.ok (), db.setWindow ruleID groupKey events)

def DB.addFirstSeen (db : DB) (ruleID pattern : String) : DB :=
  { db with firstSeen := fun r p => (r = ruleID ∧ p = pattern) || db.firstSeen r p }

/-- `is_first_seen`, modelled from the spec as an atomic test-and-insert. -/
def DB.isFirstSeen (db : DB) (ruleID pattern : String) : Except String Bool × DB :=
  match db.attempt with
  | (true, db) => (.error storageError, db)
  | (false, db) =>
    if db.firstSeen ruleID pattern then (.ok false, db) else (.ok true, db.addFirstSeen ruleID pattern)

@[simp] theorem DB.attempt_nil {db : DB} (h : db.faults = []) : db.attempt = (false, db) := by
  simp [DB.attempt, h]

@[simp] theorem DB.attempt_windows (db : DB) : db.attempt.2.windows = db.windows := by
  unfold DB.attempt; split <;> rfl

@[simp] theorem DB.setWindow_faults (db : DB) (r g : String) (es : List EventMap) :
    (db.setWindow r g es).faults = db.faults := rfl

@[simp] theorem DB.setWindow_firstSeen (db : DB) (r g : String) (es : List EventMap) :
    (db.setWindow r g es).firstSeen = db.firstSeen := rfl

theorem DB.setWindow_windows (db : DB) (r g r' g' : String) (es : List EventMap) :
    (db.setWindow r g es).windows r' g' = if r' = r ∧ g' = g then es else db.windows r' g' := rfl

@[simp] theorem DB.setWindow_same (db : DB) (r g : String) (es : List EventMap) :
    (db.setWindow r g es).windows r g = es := by
  simp [DB.setWindow_windows]

@[simp] theorem DB.addFirstSeen_faults (db : DB) (r p : String) :
    (db.addFirstSeen r p).faults = db.faults := rfl

theorem DB.addFirstSeen_firstSeen (db : DB) (r p r' p' : String) :
    (db.addFirstSeen r p).firstSeen r' p' = ((r' = r ∧ p' = p) || db.firstSeen r' p') := rfl

theorem DB.addFirstSeen_comm (db : DB) (r p r' p' : String) :
    (db.addFirstSeen r p).addFirstSeen r' p' = (db.addFirstSeen r' p').addFirstSeen r p := by
  simp only [DB.addFirstSeen, Bool.or_left_comm]

theorem DB.addFirstSeen_of_firstSeen {db : DB} {r p : String} (h : db.firstSeen r p = true) :
    db.addFirstSeen r p = db := by
  simp only [DB.addFirstSeen]
  congr
  funext r' p'
  by_cases hr : r' = r ∧ p' = p
  · obtain ⟨rfl, rfl⟩ := hr; simp [h]
  · simp [hr]

theorem DB.isFirstSeen_ok {db : DB} (h : db.faults = []) (r p : String) :
    db.isFirstSeen r p =
      if db.firstSeen r p then (.ok false, db) else (.ok true, db.addFirstSeen r p) := by
  simp [DB.isFirstSeen, h]

@[simp] theorem DB.setWindow_setWindow (db : DB) (r g : String) (es es' : List EventMap) :
    (db.setWindow r g es).setWindow r g es' = db.setWindow r g es' := by
  simp only [DB.setWindow, DB.mk.injEq, and_true, true_and]
  funext r' g'
  split <;> rfl

theorem DB.setWindow_other (db : DB) {r g r' g' : String} (es : List EventMap)
    (h : ¬(r' = r ∧ g' = g)) : (db.setWindow r g es).windows r' g' = db.windows r' g' := by
  simp [DB.setWindow_windows, h]

theorem DB.storeWindowEvent_ok {db : DB} (h : db.faults = []) (r g : String) (e : EventMap) :
    db.storeWindowEvent r g e = (.ok (), db.setWindow r g (db.windows r g ++ [e])) := by
  simp [DB.storeWindowEvent, h]

theorem DB.getWindowEvents_ok {db : DB} (h : db.faults = []) (r g : String) :
    db.getWindowEvents r g = (.ok (db.windows r g), db) := by
  simp [DB.getWindowEvents, h]

theorem DB.replaceWindowEvents_ok {db : DB} (h : db.faults = []) (r g : String)
    (es : List EventMap) : db.replaceWindowEvents r g es = (.ok (), db.setWindow r g es) := by
  simp [DB.replaceWindowEvents, h]

end Santamon.State
