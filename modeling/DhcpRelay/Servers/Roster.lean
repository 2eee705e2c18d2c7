import DhcpRelay.Table

/-!
# The roster of servers

Every interface has an ordered list of servers, never an empty one.  Besides the
lists the roster keeps one record per server that counts the interfaces which
list it.  A roster may stand for a multicast group: an interface joins the
group when its list appears and leaves it when the list goes.

Each operation gives its result, the roster afterwards and what happened on
the way.  The outside world takes part through `GroupAccess` alone.
-/

namespace DhcpRelay

/-- Why an operation on a roster fails. -/
inductive RosterFault where
  | capacityExceeded (interface : String) (limit : Nat)
  | notFound (interface server : String)
  | membership (interface reason : String)
  deriving DecidableEq, Repr

/-- The text of a failure. -/
def RosterFault.message : RosterFault → String
  | capacityExceeded interface limit =>
      s!"interface {interface} already has the maximum of {limit} servers"
  | notFound interface server =>
      s!"server {server} is not configured on interface {interface}"
  | membership interface reason =>
      s!"multicast membership change on {interface} failed: {reason}"

/-- How the group answers an interface that joins or leaves: with a reason to
refuse, or not. -/
structure GroupAccess where
  refusesJoin : String → Option String
  refusesLeave : String → Option String

/-- What happens to an interface of a roster. -/
inductive GroupEvent where
  | joined (interface : String)
  | joinRefused (interface reason : String)
  | created (interface : String)
  | deleted (interface : String)
  | left (interface : String)
  | leaveRefused (interface reason : String)
  deriving DecidableEq, Repr

/-- Lists of servers by interface, and the records of all servers listed. -/
structure Roster (Server : Type) where
  capacity : Nat
  multicast : Bool
  lists : Table String (List Server)
  records : Table Server Nat

namespace Roster

variable {Server : Type}

/-- The roster without interfaces. -/
def empty (capacity : Nat) (multicast : Bool) : Roster Server :=
  ⟨capacity, multicast, .empty, .empty⟩

/-- The result of an operation, the roster after it and the events on the way. -/
structure Run (Server Result : Type) where
  result : Result
  roster : Roster Server
  events : List GroupEvent

/-- What adding a server did. -/
inductive Addition where
  | added
  | alreadyPresent
  deriving DecidableEq, Repr

/-- What bringing an interface in line changed. -/
structure Difference (Server : Type) where
  added : List Server
  removed : List Server
  deriving DecidableEq, Repr

/-- Nothing was changed. -/
def Difference.isEmpty (difference : Difference Server) : Bool :=
  difference.added.isEmpty && difference.removed.isEmpty

variable [DecidableEq Server]

/-! ## Looking things up -/

/-- The servers of an interface, in the order they are sent to. -/
def list? (roster : Roster Server) (interface : String) : Option (List Server) :=
  roster.lists.get? interface

/-- The servers of an interface; none if it has no list. -/
def serversOf (roster : Roster Server) (interface : String) : List Server :=
  (roster.list? interface).getD []

/-- The number of interfaces that list a server, by its record. -/
def count? (roster : Roster Server) (server : Server) : Option Nat :=
  roster.records.get? server

/-- The names of all interfaces with servers, sorted. -/
def interfaces (roster : Roster Server) : List String :=
  roster.lists.keys.mergeSort fun left right => left ≤ right

/-- A server with its count, as reports show it. -/
structure Entry (Server : Type) where
  server : Server
  count : Nat
  deriving DecidableEq, Repr

/-- An interface as reports show it. -/
structure Overview (Server : Type) where
  name : String
  servers : List (Entry Server)
  deriving DecidableEq, Repr

/-- All interfaces, or the one asked for, sorted by name. -/
def overview (roster : Roster Server) (wanted : Option String) : List (Overview Server) :=
  (roster.interfaces.filter fun name => wanted.all (· == name)).map fun name =>
    ⟨name, (roster.serversOf name).map fun server =>
      ⟨server, (roster.count? server).getD 0⟩⟩

/-! ## Records and lists -/

/-- Count one more interface for a server. -/
def addRecord (roster : Roster Server) (server : Server) : Roster Server :=
  { roster with
    records := roster.records.put server ((roster.records.get? server).getD 0 + 1) }

/-- Count one interface less for a server; a record that counts none goes. -/
def dropRecord (roster : Roster Server) (server : Server) : Roster Server :=
  match roster.records.get? server with
  | none => roster
  | some count =>
      { roster with
        records :=
          if count - 1 = 0 then roster.records.erase server
          else roster.records.put server (count - 1) }

/-- Remove a server from a list; the last one of the list takes its place. -/
def swapRemove (server : Server) (servers : List Server) : List Server :=
  match servers.getLast? with
  | none => []
  | some last =>
      if last = server then servers.dropLast else servers.dropLast.replace server last

/-- Append a server to the list of an interface that has one. -/
def link (roster : Roster Server) (interface : String) (server : Server) :
    Roster Server :=
  let counted := roster.addRecord server
  match counted.lists.get? interface with
  | none => counted
  | some servers => { counted with lists := counted.lists.put interface (servers ++ [server]) }

/-- Take a server off the list of an interface.  The list stays even when it is
empty now. -/
def unlink [ToString Server] (roster : Roster Server) (interface : String)
    (server : Server) : Except RosterFault (Roster Server) :=
  match roster.lists.get? interface with
  | none => .error (.notFound interface (toString server))
  | some servers =>
      if server ∈ servers then
        .ok (dropRecord
          { roster with lists := roster.lists.put interface (swapRemove server servers) }
          server)
      else
        .error (.notFound interface (toString server))

/-! ## Interfaces that come and go -/

/-- Give an interface an empty list, joining the group first. -/
def create (roster : Roster Server) (access : GroupAccess) (interface : String) :
    Run Server (Except RosterFault Unit) :=
  let created := { roster with lists := roster.lists.put interface [] }
  if roster.capacity = 0 then
    ⟨.error (.capacityExceeded interface 0), roster, []⟩
  else if roster.multicast then
    match access.refusesJoin interface with
    | some reason =>
        ⟨.error (.membership interface reason), roster, [.joinRefused interface reason]⟩
    | none => ⟨.ok (), created, [.joined interface, .created interface]⟩
  else
    ⟨.ok (), created, [.created interface]⟩

/-- Take the list of an interface away and leave the group. -/
def delete (roster : Roster Server) (access : GroupAccess) (interface : String) :
    Run Server Unit :=
  let deleted := { roster with lists := roster.lists.erase interface }
  let leaving :=
    if roster.multicast then
      match access.refusesLeave interface with
      | some reason => [.leaveRefused interface reason]
      | none => [.left interface]
    else
      []
  ⟨(), deleted, .deleted interface :: leaving⟩

/-! ## Operations -/

/-- Add a server to an interface.  A server that it lists already is left where
it is. -/
def add (roster : Roster Server) (access : GroupAccess) (interface : String)
    (server : Server) : Run Server (Except RosterFault Addition) :=
  match roster.lists.get? interface with
  | some servers =>
      if server ∈ servers then
        ⟨.ok .alreadyPresent, roster, []⟩
      else if roster.capacity ≤ servers.length then
        ⟨.error (.capacityExceeded interface roster.capacity), roster, []⟩
      else
        ⟨.ok .added, roster.link interface server, []⟩
  | none =>
      let created := roster.create access interface
      match created.result with
      | .error fault => ⟨.error fault, created.roster, created.events⟩
      | .ok () => ⟨.ok .added, created.roster.link interface server, created.events⟩

variable [ToString Server]

/-- Remove a server from an interface, and the interface with its last server. -/
def remove (roster : Roster Server) (access : GroupAccess) (interface : String)
    (server : Server) : Run Server (Except RosterFault Unit) :=
  match roster.unlink interface server with
  | .error fault => ⟨.error fault, roster, []⟩
  | .ok unlinked =>
      if unlinked.lists.get? interface = some [] then
        let deleted := unlinked.delete access interface
        ⟨.ok (), deleted.roster, deleted.events⟩
      else
        ⟨.ok (), unlinked, []⟩

/-- Remove servers one after the other.  Gives those that could be removed. -/
def removeEach (roster : Roster Server) (access : GroupAccess) (interface : String) :
    List Server → Run Server (List Server)
  | [] => ⟨[], roster, []⟩
  | server :: rest =>
      let removal := roster.remove access interface server
      let later := removal.roster.removeEach access interface rest
      match removal.result with
      | .ok () => ⟨server :: later.result, later.roster, removal.events ++ later.events⟩
      | .error _ => ⟨later.result, later.roster, removal.events ++ later.events⟩

/-- Remove all servers of an interface. -/
def clear (roster : Roster Server) (access : GroupAccess)
    (interface : String) : Run Server (List Server) :=
  roster.removeEach access interface (roster.serversOf interface)

/-- Remove servers one after the other, up to the first that cannot be removed. -/
def removeAll (roster : Roster Server) (access : GroupAccess) (interface : String) :
    List Server → Run Server (Except RosterFault Unit)
  | [] => ⟨.ok (), roster, []⟩
  | server :: rest =>
      let removal := roster.remove access interface server
      match removal.result with
      | .error fault => ⟨.error fault, removal.roster, removal.events⟩
      | .ok () =>
          let later := removal.roster.removeAll access interface rest
          ⟨later.result, later.roster, removal.events ++ later.events⟩

/-- Unlink servers one after the other, up to the first that is not listed. -/
def unlinkAll (roster : Roster Server) (interface : String) :
    List Server → Run Server (Except RosterFault Unit)
  | [] => ⟨.ok (), roster, []⟩
  | server :: rest =>
      match roster.unlink interface server with
      | .error fault => ⟨.error fault, roster, []⟩
      | .ok unlinked => unlinked.unlinkAll interface rest

/-- Add servers one after the other, up to the first that is refused. -/
def addAll (roster : Roster Server) (access : GroupAccess) (interface : String) :
    List Server → Run Server (Except RosterFault Unit)
  | [] => ⟨.ok (), roster, []⟩
  | server :: rest =>
      let addition := roster.add access interface server
      match addition.result with
      | .error fault => ⟨.error fault, addition.roster, addition.events⟩
      | .ok _ =>
          let later := addition.roster.addAll access interface rest
          ⟨later.result, later.roster, addition.events ++ later.events⟩

/-- Do one thing after another, unless the first one failed. -/
def Run.andThen {Result : Type} (run : Run Server (Except RosterFault Unit))
    (next : Roster Server → Run Server (Except RosterFault Result)) :
    Run Server (Except RosterFault Result) :=
  match run.result with
  | .error fault => ⟨.error fault, run.roster, run.events⟩
  | .ok () =>
      let later := next run.roster
      ⟨later.result, later.roster, run.events ++ later.events⟩

/-- Make sure that an interface has a list. -/
def ensure (roster : Roster Server) (access : GroupAccess) (interface : String) :
    Run Server (Except RosterFault Unit) :=
  if roster.lists.contains interface then ⟨.ok (), roster, []⟩
  else roster.create access interface

/-- Bring an interface in line with a list of servers, repetitions apart.  What
it lists already keeps its place in the list as far as removals allow, what is
new follows in order.  An interface that keeps some server stays in the group. -/
def assign (roster : Roster Server) (access : GroupAccess) (interface : String)
    (desired : List Server) : Run Server (Except RosterFault (Difference Server)) :=
  let current := roster.serversOf interface
  let wanted := desired.eraseDups
  let removed := current.filter (· ∉ wanted)
  let added := wanted.filter (· ∉ current)
  let done (roster : Roster Server) :
      Run Server (Except RosterFault (Difference Server)) :=
    ⟨.ok ⟨added, removed⟩, roster, []⟩
  if roster.capacity < wanted.length then
    ⟨.error (.capacityExceeded interface roster.capacity), roster, []⟩
  else if wanted.isEmpty then
    (roster.removeAll access interface removed).andThen done
  else
    (roster.ensure access interface).andThen fun roster =>
      (roster.unlinkAll interface removed).andThen fun roster =>
        (roster.addAll access interface added).andThen done

end Roster

end DhcpRelay
