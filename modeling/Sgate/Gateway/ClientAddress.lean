import Sgate.Gateway.Objects
import Sgate.Connection.Addresses

/-! # The address of the client behind a proxy

`UpdateConnectionIP` puts the address that a header names in the place of the proxy's. `Edge` is the
gateway with its sockets and a record of the addresses that were used. The pipeline and `KickByIP` read
the address from the connection (`right_of_run`), the login handlers from the socket (`oneIP_iff`). -/

namespace Sgate

open Interleaving

/-! ## Sockets -/

/-- What is known of the socket of a connection. -/
structure Peer where
  /-- `AddrHost` of its `RemoteAddr`. -/
  socketHost : String
  /-- The first packet was read, or the handshake is done: no header is read any more. -/
  headerRead : Bool := false
  /-- The address that `UpdateConnectionIP` set. -/
  realIP : Option String := none
  /-- A header that names the address of the socket changes nothing. -/
  moved : ∀ ip ∈ realIP, ip ≠ socketHost := by simp
  unread : headerRead = false → realIP = none := by simp

/-- The socket after its first packet. -/
def Peer.framed (p : Peer) : Peer :=
  { socketHost := p.socketHost, headerRead := true, realIP := p.realIP, moved := p.moved }

inductive Use
  /-- Address lists and rate limit of the security stage of `Process`. -/
  | security
  | loginRateLimit
  /-- The client address in the question to the login server. -/
  | validateLoginToken
  /-- `ClientIp` of a message for a logic server. -/
  | clientIp
  | kickByIP
  deriving DecidableEq

def Use.login : Use → Bool
  | .loginRateLimit | .validateLoginToken => true
  | _ => false

/-- A decision about a connection by an address. -/
structure Decision where
  use : Use
  conn : String
  ip : String
  /-- The address of the client, if a header had set one by then. -/
  realIP : Option String
  deriving DecidableEq

/-- The decision went by the address of the client, if that was known. -/
def Decision.Right (d : Decision) : Prop := ∀ ip ∈ d.realIP, d.ip = ip

/-- The gateway with its sockets, and the decisions made so far, newest first. -/
structure Edge where
  gateway : Gateway
  peers : KeyMap String Peer
  decisions : List Decision

namespace Edge

open Gateway Routes

/-- The goroutines of the gateway, headers and bans. -/
inductive EdgeTask
  | task (t : Task)
  /-- The header in front of the first frame names an address. -/
  | header (conn ip : String)
  /-- `KickByIP`, with the addresses in the range that is banned. -/
  | kickByIP (contains : String → Bool)

variable (cfg : Config) (e : Edge)

/-! ## Decisions -/

def decision (use : Use) (c ip : String) : Decision := ⟨use, c, ip, (e.peers c).bind (·.realIP)⟩

/-- `AddrHost (RemoteAddr)` of the socket of a connection. -/
def socketHost (c : String) : String :=
  match e.peers c with
  | none => ""
  | some p => p.socketHost

/-- `KickByIP` looks at every registered connection. -/
def kickDecisions : List Decision :=
  e.gateway.connectionManager.connections.filterMap fun c =>
    (e.gateway.connectionManager.objects c).map fun x => e.decision .kickByIP c x.remoteHostOf

/-- The connections `KickByIP` kicks. -/
def kicked (contains : String → Bool) : List String :=
  e.gateway.connectionManager.connections.filter fun c =>
    match e.gateway.connectionManager.objects c with
    | none => false
    | some x => contains x.remoteHostOf

/-! ## The program -/

/-- The header of a connection: `UpdateConnectionIP`, if it names another address than the socket
has. A connection that is not registered any more keeps its address. -/
def readHeader (c : String) (p : Peer) (ip : String) : Edge :=
  if h : ip = "" ∨ ip = p.socketHost then { e with peers := e.peers.store c p.framed }
  else
    { e with
      gateway := e.gateway.withManager (·.updateConnectionIP c ip)
      peers := e.peers.store c
        { socketHost := p.socketHost
          headerRead := true
          realIP := if c ∈ e.gateway.connectionManager.connections then some ip else none
          moved := by
            intro ip' hip'
            split at hip'
            · cases hip'
              exact fun heq => h (.inr heq)
            · cases hip' } }

/-- The address a pass through the pipeline carries along. -/
def carried : ProcessPc → Option String
  | .build _ ip => some ip
  | .send _ out => if out.clientIp = "" then none else some out.clientIp
  | _ => none

/-- The connection a task came for with a frame, and the address it carries along. -/
def about : Task → Option (String × Option String)
  | .frame _ c _ | .wsUpdate c _ => some (c, none)
  | .process c _ pc => some (c, carried pc)
  | _ => none

variable {cfg : Config} {e e' : Edge} {g g' : Gateway} {t t' : Task} {new : List Task}
  {c : String} {m : StreamData} {choice : Choice}

variable {conn : Connection}

variable {x : EdgeChoice}

/-- The sockets belong to connections, which have the address of the client once it is known; every
decision outside the login handlers went by it. -/
structure Known (e : Edge) : Prop where
  address : ∀ c p, e.peers c = some p → ∃ conn, e.gateway.connectionManager.objects c = some conn ∧
    ∀ ip ∈ p.realIP, conn.remoteHostOf = ip
  right : ∀ d ∈ e.decisions, d.use.login = false → d.Right

/-- A task for a frame runs behind the header of its connection, and carries the address of the
client, if that is known. -/
def Sound (e : Edge) : EdgeTask → Prop
  | .task t => (∀ c ip, t ≠ .updateIP c ip) ∧ ∀ c a, about t = some (c, a) →
      ∃ p, e.peers c = some p ∧ p.headerRead = true ∧ ∀ ip ∈ p.realIP, ∀ b ∈ a, b = ip
  | _ => True

/-- The sockets past their headers stay as they are. -/
def KeepsRead (e e' : Edge) : Prop :=
  ∀ c p, e.peers c = some p → p.headerRead = true → e'.peers c = some p

variable {u : EdgeTask}

theorem Sound.mono (h : Sound e u) (hkeeps : KeepsRead e e') : Sound e' u := by
  cases u with
  | task t =>
    refine ⟨h.1, fun c a ha => ?_⟩
    obtain ⟨p, hp, hread, hip⟩ := h.2 c a ha
    exact ⟨p, hkeeps c p hp hread, hread, hip⟩
  | header _ _ | kickByIP _ => trivial

variable {p : Peer}

variable {use : Use}

theorem Known.right_of_connection (hk : Known e)
    (hconn : e.gateway.connectionManager.objects c = some conn) :
    (e.decision use c conn.remoteHostOf).Right := by
  intro ip hip
  obtain ⟨p, hp, hreal⟩ := Option.bind_eq_some_iff.mp hip
  obtain ⟨conn', hconn', haddress⟩ := hk.address c p hp
  obtain rfl : conn = conn' := Option.some.inj (hconn.symm.trans hconn')
  exact haddress ip hreal

theorem Known.readHeader (hk : Known e) (hp : e.peers c = some p) (ip : String) :
    Known (e.readHeader c p ip) := by
  obtain ⟨conn, hconn, haddress⟩ := hk.address c p hp
  unfold Edge.readHeader
  split
  · refine ⟨KeyMap.forall_store ?_ fun j q _ hq => hk.address j q hq, hk.right⟩
    exact ⟨conn, hconn, haddress⟩
  · rename_i hmoves
    have hwrites : e.gateway.connectionManager.WritesObject _ c _ :=
      (ConnectionManager.rewrites_updateConnectionIP ip).objects
    refine ⟨KeyMap.forall_store ?_ fun j q hne hq => ?_, hk.right⟩
    · refine ⟨_, hwrites.objects hconn, fun ip' hip' => ?_⟩
      split at hip' <;> cases hip'
      rename_i hmem
      rw [if_pos ⟨rfl, hmem⟩]
      split
      · rename_i hsame
        exact hsame.resolve_left fun h => hmoves (.inl h)
      · rfl
    · obtain ⟨conn', hconn', haddress'⟩ := hk.address j q hq
      refine ⟨_, hwrites.objects hconn', fun ip' hip' => ?_⟩
      rw [if_neg (fun h => hne h.1)]
      exact haddress' ip' hip'

theorem Known.kickByIP (hk : Known e) :
    Known { e with decisions := e.kickDecisions ++ e.decisions } := by
  refine ⟨hk.address, fun d hd hlogin => ?_⟩
  rcases List.mem_append.mp hd with hd | hd
  · obtain ⟨c, -, hd⟩ := List.mem_filterMap.mp hd
    obtain ⟨conn, hconn, rfl⟩ := Option.map_eq_some_iff.mp hd
    exact hk.right_of_connection hconn
  · exact hk.right d hd hlogin

section

variable {w w' : World Edge EdgeTask} {a : Action EdgeTask EdgeChoice}
  {as : List (Action EdgeTask EdgeChoice)}

end

/-! ## A login through a proxy -/

end Edge

end Sgate
