/-
This file models the links that `MessageLinkManager` keeps to the Message nodes: the
`MessageLink` objects and the map `links` from node ids to them.

Objects are numbered in the order in which they are made; a number stands for the pointer
and is not used again. The object that is not in the map any more goes on existing, since
its stream may still call back.
-/

import Mathlib
import Wimi.Lib.Transition

namespace Wimi.Gateway

open Function List Option

/-! ### Nodes -/

/-- `MessageLinkManager::Node`. -/
structure Node where
  id : String
  host : String
  port : UInt16
deriving DecidableEq, Repr

/-- `desired[node.id] = node` for one node after the other: the last one under an id stands. -/
def findNode (nodes : List Node) (id : String) : Option Node :=
  nodes.reverse.find? fun node => node.id = id

/-- A node is configured with this host and port. -/
def configuredAs (nodes : List Node) (node : Node) : Bool :=
  match findNode nodes node.id with
  | some configured => configured.host = node.host && configured.port = node.port
  | none => false

theorem configuredAs_iff {nodes : List Node} {node : Node} :
    configuredAs nodes node = true ↔ ∃ configured, findNode nodes node.id = some configured ∧
      configured.host = node.host ∧ configured.port = node.port := by
  unfold configuredAs
  cases findNode nodes node.id with
  | none | some => simp

/-! ### Links -/

/-- `MessageLink`. -/
structure MessageLink where
  node : Node
  stopped : Bool := false
  healthy : Bool := false
  inflight : Nat := 0
  started : Bool := false
  done : Bool := false
deriving DecidableEq, Repr

/-- `MessageLink::Stop`. -/
def MessageLink.stop (link : MessageLink) : MessageLink :=
  if link.stopped then link else { link with stopped := true, healthy := false }

/-- The objects that were made, and the map from node ids to them. -/
structure LinkTable where
  created : Nat := 0
  objects : Nat → Option MessageLink := fun _ => none
  links : List (String × Nat) := []

namespace LinkTable

variable (table : LinkTable)

/-- `links.find`. -/
def find (nodeId : String) : Option Nat :=
  (table.links.find? fun entry => entry.1 = nodeId).map Prod.snd

/-- `links.erase`. -/
def erase (nodeId : String) : LinkTable :=
  { table with links := table.links.filter fun entry => entry.1 ≠ nodeId }

/-- Change an object. -/
def update (index : Nat) (change : MessageLink → MessageLink) : LinkTable :=
  { table with
    objects := Function.update table.objects index ((table.objects index).map change) }

/-- The lock region of `StartLink`: a link that is in the map is stopped, and the new one takes its
place. -/
def startLink (node : Node) : LinkTable :=
  let retired :=
    match table.find node.id with
    | some old => table.update old MessageLink.stop
    | none => table
  { created := table.created + 1
    objects := Function.update retired.objects table.created (some { node })
    links := (node.id, table.created) :: (table.erase node.id).links }

/-- `link->Start()`. -/
def start (index : Nat) : LinkTable :=
  table.update index fun link => { link with started := true }

/-- `MessageLink::OnDone`, before it tells the manager. -/
def finish (index : Nat) : LinkTable :=
  table.update index fun link => { link with stopped := true, healthy := false, done := true }

end LinkTable

/-! ### What is found in the table -/

variable {table : LinkTable}

/-- What a lookup finds is an entry of the map. -/
theorem mem_of_find {nodeId : String} {index : Nat} (found : table.find nodeId = some index) :
    (nodeId, index) ∈ table.links := by
  obtain ⟨⟨id, value⟩, present, rfl⟩ := map_eq_some_iff.mp found
  have key := find?_some present
  obtain rfl : id = nodeId := of_decide_eq_true key
  exact mem_of_find?_eq_some present

/-- A node id that is not found has no entry. -/
theorem not_mem_of_find {nodeId : String} (absent : table.find nodeId = none) (index : Nat) :
    (nodeId, index) ∉ table.links := by
  intro member
  exact absurd (decide_eq_true rfl)
    (find?_eq_none.mp (map_eq_none_iff.mp absent) _ member)

theorem mem_erase {nodeId : String} {entry : String × Nat} :
    entry ∈ (table.erase nodeId).links ↔ entry ∈ table.links ∧ entry.1 ≠ nodeId := by
  simp only [LinkTable.erase, mem_filter, decide_eq_true_eq]

/-- An object after a change of one of them. -/
theorem objects_update_eq_some {index other : Nat} {change : MessageLink → MessageLink}
    {link : MessageLink} (present : (table.update index change).objects other = some link) :
    ∃ before, table.objects other = some before ∧
      (other = index ∧ link = change before ∨ other ≠ index ∧ link = before) := by
  unfold LinkTable.update at present
  by_cases same : other = index
  · grind [update_self, map_eq_some_iff]
  · grind

/-- A change of one object leaves the others, and each object that is there is there after it. -/
theorem exists_objects_update {index other : Nat} (change : MessageLink → MessageLink)
    {link : MessageLink} (present : table.objects other = some link) :
    (table.update index change).objects other =
      some (if other = index then change link else link) := by
  unfold LinkTable.update
  by_cases same : other = index
  · grind
  · simp only [update_of_ne same, present, if_neg same]

end Wimi.Gateway
