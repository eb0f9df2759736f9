import ScriptScheduler.Ident

/-!
# Holders of request numbers

A holder keeps the numbers of the requests that one script or one entity is involved in, one queue
per kind of request, each in order of registration.
-/

namespace ScriptScheduler

/-- What a script asks of an entity. -/
inductive RequestKind where
  | targetObject
  | targetCursor
  | textEntry
  deriving DecidableEq

namespace RequestKind

/-- All kinds in their order. -/
def all : List RequestKind := [.targetObject, .targetCursor, .textEntry]

/-- The name of a kind. -/
def name : RequestKind → String
  | .targetObject => "target_object"
  | .targetCursor => "target_cursor"
  | .textEntry => "text_entry"

/-- The name of a kind in inspection texts. -/
def label : RequestKind → String
  | .targetObject => "TargetObject"
  | .targetCursor => "TargetCursor"
  | .textEntry => "TextEntry"

/-- The kind with a given name. -/
def ofName? (name : String) : Option RequestKind := all.find? fun kind => kind.name = name

end RequestKind

/-- The queues of a holder, one per kind. -/
structure Holder where
  objects : List RequestId := []
  cursors : List RequestId := []
  texts : List RequestId := []
  deriving DecidableEq

namespace Holder

/-- A holder without requests. -/
def empty : Holder := {}

/-- The queue of a kind. -/
def queue (h : Holder) : RequestKind → List RequestId
  | .targetObject => h.objects
  | .targetCursor => h.cursors
  | .textEntry => h.texts

/-- The holder with another queue for a kind. -/
def setQueue (h : Holder) (kind : RequestKind) (ids : List RequestId) : Holder :=
  match kind with
  | .targetObject => { h with objects := ids }
  | .targetCursor => { h with cursors := ids }
  | .textEntry => { h with texts := ids }

@[simp] theorem queue_setQueue_self (h : Holder) (kind : RequestKind) (ids : List RequestId) :
    (h.setQueue kind ids).queue kind = ids := by
  cases kind <;> rfl

@[simp] theorem queue_setQueue_of_ne (h : Holder) {kind other : RequestKind}
    (ids : List RequestId) (ne : other ≠ kind) :
    (h.setQueue kind ids).queue other = h.queue other := by
  cases kind <;> cases other <;> simp_all [setQueue, queue]

/-- All request numbers, by kind and within a kind by registration. -/
def ids (h : Holder) : List RequestId := h.objects ++ h.cursors ++ h.texts

/-- How many requests are held. -/
def size (h : Holder) : Nat := h.ids.length

/-- Whether no request is held. -/
def isEmpty (h : Holder) : Bool := h.ids.isEmpty

/-- Whether a request is held under any kind. -/
def contains (h : Holder) (id : RequestId) : Bool := h.ids.contains id

/-- Registers a request, unless it is already held. -/
def add? (h : Holder) (kind : RequestKind) (id : RequestId) : Option Holder :=
  if h.contains id then none else some (h.setQueue kind (h.queue kind ++ [id]))

/-- Removes a request held under a kind. -/
def remove (h : Holder) (kind : RequestKind) (id : RequestId) : Holder :=
  h.setQueue kind ((h.queue kind).erase id)

/-- Whether a request is held under a kind. -/
def has (h : Holder) (kind : RequestKind) (id : RequestId) : Bool := (h.queue kind).contains id

/-- The request registered first under a kind, or the one asked for if it is held under that
kind. -/
def find? (h : Holder) (kind : RequestKind) (hint : Option RequestId) : Option RequestId :=
  match hint with
  | none => (h.queue kind).head?
  | some id => if h.has kind id then some id else none

end Holder

end ScriptScheduler
