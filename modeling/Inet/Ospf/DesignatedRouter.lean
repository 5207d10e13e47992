import Inet.Ospf.DatabaseDescription
import Mathlib.Data.List.MinMax
import Mathlib.Data.Prod.Lex

/-!
# The election of the Designated Router

`InterfaceState::calculateDesignatedRouter`: two selections over the neighbors and the router
itself, made once more when its own role changes, and the state changes after them. `Best` is what a
selection keeps. Where nobody declares itself Backup, the source takes the highest of all only when
the router itself may be Backup; `BackupFound` is the condition under which that does not matter.
-/

namespace Inet.Ospf.MultiAccess

open Ipv4 Flooding Exchange

structure DesignatedRouterID where
  routerID : RouterID
  ipInterfaceAddress : IPv4Address
  deriving DecidableEq

def NULL_ROUTERID : RouterID := 0

def NULL_DESIGNATEDROUTERID : DesignatedRouterID := ⟨0, 0⟩

/-- A neighbor, with what its Hello packets say. -/
structure Neighbor where
  neighborID : RouterID
  neighborPriority : ℕ
  neighborIPAddress : IPv4Address
  state : NeighborStateType
  neighborsDesignatedRouter : DesignatedRouterID
  neighborsBackupDesignatedRouter : DesignatedRouterID
  designatedRoutersSetUp : Bool
  deriving DecidableEq

/-- An interface, with the ID of the router that it belongs to. -/
structure Interface where
  routerID : RouterID
  interfaceType : OSPFInterfaceType
  state : InterfaceStateType
  interfaceAddress : IPv4Address
  routerPriority : ℕ
  designatedRouter : DesignatedRouterID
  backupDesignatedRouter : DesignatedRouterID
  neighboringRouters : List Neighbor
  deriving DecidableEq

/-- The variables of one selection. -/
structure Best where
  router : DesignatedRouterID
  priority : ℕ
  id : RouterID
  declared : Bool

namespace Best

def none : Best := ⟨NULL_DESIGNATEDROUTERID, 0, NULL_ROUTERID, false⟩

/-- One router more is considered. -/
def offer (best : Best) (router : DesignatedRouterID) (priority : ℕ) (id : RouterID) : Best :=
  if best.priority < priority ∨ (priority = best.priority ∧ best.id < id) then
    ⟨router, priority, id, true⟩
  else best

end Best

namespace Neighbor

/-- The checks with which both selections begin. -/
def mayVote (neighbor : Neighbor) : Bool :=
  decide (NeighborStateType.TWOWAY_STATE.toNat ≤ neighbor.state.toNat) &&
    decide (neighbor.neighborPriority ≠ 0)

def declaresDesignated (neighbor : Neighbor) : Bool :=
  decide (neighbor.neighborsDesignatedRouter.routerID = neighbor.neighborID)

def declaresBackup (neighbor : Neighbor) : Bool :=
  decide (neighbor.neighborsBackupDesignatedRouter.routerID = neighbor.neighborID)

end Neighbor

namespace Interface

/-- The round of the first loop for one neighbor: the declared Backup, and the highest router as
long as no Backup is declared. -/
def considerBackup (scan : Best × Best) (neighbor : Neighbor) : Best × Best :=
  if neighbor.mayVote && !neighbor.declaresDesignated then
    let declaredBackup :=
      if neighbor.declaresBackup then
        scan.1.offer neighbor.neighborsBackupDesignatedRouter neighbor.neighborPriority
          neighbor.neighborID
      else scan.1
    (declaredBackup,
      if declaredBackup.declared then scan.2
      else
        scan.2.offer ⟨neighbor.neighborID, neighbor.neighborIPAddress⟩ neighbor.neighborPriority
          neighbor.neighborID)
  else scan

/-- The router itself, as it is considered in both selections. -/
def offerSelf (intf : Interface) (best : Best) : Best :=
  best.offer ⟨intf.routerID, intf.interfaceAddress⟩ intf.routerPriority intf.routerID

def electBackup (intf : Interface) (currentDesignatedRouter currentBackupRouter : RouterID) :
    Best :=
  let scan := intf.neighboringRouters.foldl considerBackup (.none, .none)
  if 0 < intf.routerPriority ∧ currentDesignatedRouter ≠ intf.routerID then
    let declaredBackup :=
      if currentBackupRouter = intf.routerID then intf.offerSelf scan.1 else scan.1
    if declaredBackup.declared then declaredBackup
    else { intf.offerSelf scan.2 with declared := true }
  else scan.1

/-- The round of the second loop for one neighbor. -/
def considerDesignated (best : Best) (neighbor : Neighbor) : Best :=
  if neighbor.mayVote && neighbor.declaresDesignated then
    best.offer neighbor.neighborsDesignatedRouter neighbor.neighborPriority neighbor.neighborID
  else best

def electDesignated (intf : Interface) (currentDesignatedRouter : RouterID)
    (declaredBackup : Best) : Best :=
  let declared := intf.neighboringRouters.foldl considerDesignated .none
  let declared :=
    if 0 < intf.routerPriority ∧ currentDesignatedRouter = intf.routerID then
      intf.offerSelf declared
    else declared
  if declared.declared then declared else declaredBackup

/-- Both selections: the Designated Router and the Backup. -/
def elect (intf : Interface) (currentDesignatedRouter currentBackupRouter : RouterID) :
    DesignatedRouterID × DesignatedRouterID :=
  let declaredBackup := intf.electBackup currentDesignatedRouter currentBackupRouter
  ((intf.electDesignated currentDesignatedRouter declaredBackup).router, declaredBackup.router)

/-- The test for another round. -/
def repeats (intf : Interface) (currentDesignatedRouter currentBackupRouter : RouterID)
    (declared : DesignatedRouterID × DesignatedRouterID) : Bool :=
  (decide (declared.1.routerID ≠ NULL_ROUTERID) &&
      (decide (currentDesignatedRouter = intf.routerID) !=
        decide (declared.1.routerID = intf.routerID))) ||
    (decide (declared.2.routerID ≠ NULL_ROUTERID) &&
      (decide (currentBackupRouter = intf.routerID) !=
        decide (declared.2.routerID = intf.routerID)))

/-- The loop, of two rounds at most. -/
def electTwice (intf : Interface) : DesignatedRouterID × DesignatedRouterID :=
  let first := intf.elect intf.designatedRouter.routerID intf.backupDesignatedRouter.routerID
  if intf.repeats intf.designatedRouter.routerID intf.backupDesignatedRouter.routerID first then
    intf.elect first.1.routerID first.2.routerID
  else first

/-- The states that are changed to, one after the other. -/
def stateChanges (intf : Interface) (isDesignatedRouter isBackupDesignatedRouter : Bool) :
    List InterfaceStateType :=
  let wasBackupDesignatedRouter := decide (intf.backupDesignatedRouter.routerID = intf.routerID)
  let wasDesignatedRouter := decide (intf.designatedRouter.routerID = intf.routerID)
  let wasOther := decide (intf.state = .NOT_DESIGNATED_ROUTER_STATE)
  let wasWaiting := !wasBackupDesignatedRouter && !wasDesignatedRouter && !wasOther
  let isOther := !isBackupDesignatedRouter && !isDesignatedRouter
  let changes := fun (was is : Bool) (state : InterfaceStateType) =>
    if was && is then [state] else []
  changes wasBackupDesignatedRouter isDesignatedRouter .DESIGNATED_ROUTER_STATE ++
    changes wasBackupDesignatedRouter isOther .NOT_DESIGNATED_ROUTER_STATE ++
    changes wasDesignatedRouter isBackupDesignatedRouter .BACKUP_STATE ++
    changes wasDesignatedRouter isOther .NOT_DESIGNATED_ROUTER_STATE ++
    changes wasOther isDesignatedRouter .DESIGNATED_ROUTER_STATE ++
    changes wasOther isBackupDesignatedRouter .BACKUP_STATE ++
    changes wasWaiting isDesignatedRouter .DESIGNATED_ROUTER_STATE ++
    changes wasWaiting isBackupDesignatedRouter .BACKUP_STATE ++
    changes wasWaiting isOther .NOT_DESIGNATED_ROUTER_STATE

/-- The events for a neighbor with which the calculation ends. -/
def neighborEvents (intf : Interface) (declared : DesignatedRouterID × DesignatedRouterID)
    (neighbor : Neighbor) : List NeighborEventType :=
  let newly := fun (old new : DesignatedRouterID) =>
    decide (old.routerID ≠ intf.routerID) && decide (new.routerID = intf.routerID)
  (if intf.interfaceType = .NBMA ∧
      (newly intf.backupDesignatedRouter declared.2 || newly intf.designatedRouter declared.1) ∧
      neighbor.neighborPriority = 0 then [.START] else []) ++
    if (declared.1.routerID ≠ intf.designatedRouter.routerID ∨
        declared.2.routerID ≠ intf.backupDesignatedRouter.routerID) ∧
        NeighborStateType.TWOWAY_STATE.toNat ≤ neighbor.state.toNat then [.IS_ADJACENCY_OK]
    else []

/-- The interface behind the calculation, and the events for the neighbors. -/
def calculateDesignatedRouter (intf : Interface) :
    Interface × List (RouterID × NeighborEventType) :=
  let declared := intf.electTwice
  ({ intf with
      designatedRouter := declared.1
      backupDesignatedRouter := declared.2
      state := (intf.stateChanges (decide (declared.1.routerID = intf.routerID))
        (decide (declared.2.routerID = intf.routerID))).getLast?.getD intf.state },
    intf.neighboringRouters.flatMap fun neighbor =>
      (intf.neighborEvents declared neighbor).map fun event => (neighbor.neighborID, event))

end Interface

end Inet.Ospf.MultiAccess
