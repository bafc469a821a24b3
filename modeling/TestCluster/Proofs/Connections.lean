import TestCluster.Proofs.Walk
import TestCluster.Scripted.Backend
import TestCluster.Tunnel

/-!
# Connections through a tunnel — one apart from the other

    Setting up a tunnel asks for the local port first and then for a connection to the pod, and
    gives the port back if the latter cannot be had (`SetsUp`).  A tunnel that has been set up
    keeps its one connection to the pod for the first local connection.  After that it asks for
    one more each time that it is used (`walk_serve_unready`), and does not remember what became
    of it: an answer that is no connection is the end of one local connection, and the next is
    served as if nothing had happened.
-/

namespace TestCluster.Tunnel

variable {server : String} {target : Api.Target} {exit : PodPort} {entry : TunnelEntry}
  {calledOff : Bool} {t t' : Tunnel} {events : List (Event World.calls)} {sent : List UInt8}
  {sents : List (List UInt8)} {σ : Type}

/-- What the server answers to a request for a connection to a pod. -/
abbrev Upgrade := Except ApiFault Api.Stream

/-- A request for a connection to a pod, with its answer. -/
def upgrade (server : String) (target : Api.Target) (answer : Upgrade) : Event World.calls :=
  ⟨.host (.upgrade server target), answer⟩

/-- What a local connection gets, given what the server has answered to the request for its
    connection to the pod: what the pod sends, if there is a connection and it is for the port. -/
def given (port : UInt16) : Upgrade → List UInt8 → List UInt8
  | .ok stream, sent => if stream.port = port then stream.reply sent else []
  | .error _, _ => []

theorem bridge_toOption (port : UInt16) (answer : Upgrade) (sent : List UInt8) :
    bridge port answer.toOption sent = given port answer sent := by
  cases answer <;> rfl

/-! ## Setting up -/

theorem walk_connect {answer : Upgrade} :
    (connect server target).Walk events answer ↔ events = [upgrade server target answer] :=
  World.walk_host

/-- The first connection to a pod is asked for at its address, if that can be formed. -/
theorem walk_connectFirst {made : Except ApiFault (Api.Target × Api.Stream)}
    (h : (connectFirst server exit).Walk events made) :
    (∃ fault, Api.Target.ofText exit.address = .error fault ∧ events = [] ∧
      made = .error (.address fault)) ∨
    ∃ target answer, Api.Target.ofText exit.address = .ok target ∧
      events = [upgrade server target answer] ∧ made = answer.map (target, ·) := by
  rw [connectFirst] at h
  cases haddress : Api.Target.ofText exit.address with
  | error fault =>
      rw [haddress] at h
      obtain ⟨rfl, rfl⟩ := Program.walk_done.1 h
      exact Or.inl ⟨fault, rfl, rfl, rfl⟩
  | ok target =>
      rw [haddress] at h
      obtain ⟨answer, hw, rfl⟩ := Program.walk_map.1 h
      exact Or.inr ⟨target, answer, rfl, walk_connect.1 hw, rfl⟩

/-- The binding of the local port of a tunnel, with its answer. -/
def bound (entry : TunnelEntry) (answer : Except OsError UInt16) : Event World.calls :=
  ⟨.host (.bind entry.address entry.port), answer⟩

/-- The local port is free again. -/
def released (entry : TunnelEntry) (port : UInt16) : Event World.calls :=
  ⟨.host (.release entry.address port), ()⟩

/-- Why the local port could not be bound. -/
def bindReason (entry : TunnelEntry) (cause : OsError) : String :=
  "bind " ++ entry.address.text ++ ":" ++ Text.decimal entry.port.toNat ++ ": " ++ cause.message

/-- The ways in which a tunnel is set up, or is not: with what is asked, and what comes of it. -/
inductive SetsUp (server : String) (exit : PodPort) (entry : TunnelEntry) :
    Bool → List (Event World.calls) → Except Error Tunnel → Prop where
  | cancelled : SetsUp server exit entry true [] (.error .cancelled)
  | unbound (cause : OsError) :
      SetsUp server exit entry false [bound entry (.error cause)]
        (.error (.portForward (exit.namespace_ ++ "/" ++ exit.pod) exit.port
          (bindReason entry cause)))
  /-- The request cannot be sent, since there is no address for it. -/
  | unaddressed {fault : Api.AddressFault} (port : UInt16) :
      Api.Target.ofText exit.address = .error fault →
      SetsUp server exit entry false [bound entry (.ok port), released entry port]
        (.error (.portForward (exit.namespace_ ++ "/" ++ exit.pod) exit.port
          (ApiFault.address fault).message))
  | refused {target : Api.Target} (port : UInt16) (fault : ApiFault) :
      Api.Target.ofText exit.address = .ok target →
      SetsUp server exit entry false
        [bound entry (.ok port), upgrade server target (.error fault), released entry port]
        (.error (.portForward (exit.namespace_ ++ "/" ++ exit.pod) exit.port fault.message))
  | ready {target : Api.Target} (port : UInt16) (first : Api.Stream) :
      Api.Target.ofText exit.address = .ok target →
      SetsUp server exit entry false
        [bound entry (.ok port), upgrade server target (.ok first)]
        (.ok ⟨server, ⟨entry.address, port⟩, exit, target, some first⟩)

/-- Before a failure is reported, the port is freed. -/
theorem walk_giveUp {port : UInt16} {e : Error} {r : Except Error Tunnel}
    (h : (liftM (World.host (.release entry.address port)) >>= fun _ => throw e :
      Attempt World.calls Tunnel).run.Walk events r) :
    events = [released entry port] ∧ r = .error e := by
  obtain ⟨_, _, rfl, hfailed⟩ := World.walk_host_bind.1 h
  obtain ⟨rfl, rfl⟩ := Attempt.walk_throw.1 hfailed
  exact ⟨rfl, rfl⟩

theorem setsUp_of_walk {r : Except Error Tunnel}
    (h : (setUp calledOff server exit entry).run.Walk events r) :
    SetsUp server exit entry calledOff events r := by
  rw [setUp] at h
  cases calledOff with
  | true =>
      obtain ⟨rfl, rfl⟩ := Attempt.walk_throw.1 h
      exact .cancelled
  | false =>
      obtain ⟨answer, _, rfl, hbound⟩ := World.walk_host_bind.1 h
      cases answer with
      | error cause =>
          obtain ⟨rfl, rfl⟩ := Attempt.walk_throw.1 hbound
          exact .unbound cause
      | ok port =>
          obtain ⟨_, made, _, rfl, hconnect, hmade⟩ := Attempt.walk_lift_bind.1 hbound
          rcases walk_connectFirst hconnect with
            ⟨fault, haddress, rfl, rfl⟩ | ⟨target, answer, haddress, rfl, rfl⟩
          · obtain ⟨rfl, rfl⟩ := walk_giveUp hmade
            exact .unaddressed port haddress
          · cases answer with
            | error fault =>
                obtain ⟨rfl, rfl⟩ := walk_giveUp hmade
                exact .refused port fault haddress
            | ok first =>
                obtain ⟨rfl, rfl⟩ := Attempt.walk_pure.1 hmade
                exact .ready port first haddress

/-- A tunnel that is set up has bound its port, and has one connection to the pod. -/
theorem walk_setUp (h : (setUp calledOff server exit entry).run.Walk events (.ok t)) :
    ∃ port target first, Api.Target.ofText exit.address = .ok target ∧
      events = [⟨.host (.bind entry.address entry.port), Except.ok port⟩,
        upgrade server target (.ok first)] ∧
      t = ⟨server, ⟨entry.address, port⟩, exit, target, some first⟩ := by
  cases setsUp_of_walk h with
  | ready port first haddress => exact ⟨port, _, first, haddress, rfl, rfl⟩

/-! ## Serving -/

/-- The connection that is ready is used without a request. -/
theorem walk_serve_ready {first : Api.Stream} {r : List UInt8 × Tunnel}
    (hready : t.ready = some first) (h : (t.serve sent).Walk events r) :
    events = [] ∧ r = (given t.exit.port (.ok first) sent, { t with ready := none }) := by
  rw [serve, take, hready] at h
  exact Program.walk_done.1 h

/-- Without a connection that is ready one is asked for, and the tunnel stays as it is whatever
    the answer. -/
theorem walk_serve_unready {r : List UInt8 × Tunnel} (hready : t.ready = none)
    (h : (t.serve sent).Walk events r) :
    ∃ answer, events = [upgrade t.server t.target answer] ∧
      r = (given t.exit.port answer sent, t) := by
  rw [serve, take, hready] at h
  obtain ⟨before, taken, after, rfl, htake, hdone⟩ := Program.walk_bind.1 h
  obtain ⟨answer, hw, rfl⟩ := Program.walk_map.1 htake
  obtain rfl := walk_connect.1 hw
  obtain ⟨rfl, rfl⟩ := Program.walk_done.1 hdone
  exact ⟨answer, rfl, congrArg (·, t) (bridge_toOption t.exit.port answer sent)⟩

/-- Once its first connection is used, a tunnel asks for one connection after the other. -/
theorem walk_serveAll_unready {r : List (List UInt8) × Tunnel} (hready : t.ready = none)
    (h : (t.serveAll sents).Walk events r) :
    ∃ answers : List Upgrade, answers.length = sents.length ∧
      events = answers.map (upgrade t.server t.target) ∧
      r.1 = List.zipWith (given t.exit.port) answers sents := by
  induction sents generalizing events r with
  | nil =>
      obtain ⟨rfl, rfl⟩ := Program.walk_done.1 h
      exact ⟨[], rfl, rfl, rfl⟩
  | cons sent later ih =>
      obtain ⟨before, served, after, rfl, hserve, h⟩ := Program.walk_bind.1 h
      obtain ⟨answer, rfl, rfl⟩ := walk_serve_unready hready hserve
      obtain ⟨middle, others, last, rfl, hothers, hdone⟩ := Program.walk_bind.1 h
      obtain ⟨rfl, rfl⟩ := Program.walk_done.1 hdone
      obtain ⟨answers, hlength, rfl, hgot⟩ := ih hothers
      refine ⟨answer :: answers, congrArg Nat.succ hlength, ?_, ?_⟩
      · rw [List.append_nil]
        rfl
      · rw [List.zipWith_cons_cons, ← hgot]

/-- A tunnel with a connection that is ready uses it first, and then asks for one connection
    after the other. -/
theorem walk_serveAll_ready {first : Api.Stream} {r : List (List UInt8) × Tunnel}
    (hready : t.ready = some first) (h : (t.serveAll sents).Walk events r) :
    ∃ later : List Upgrade, later.length = sents.length - 1 ∧
      events = later.map (upgrade t.server t.target) ∧
      r.1 = List.zipWith (given t.exit.port) (.ok first :: later) sents := by
  cases sents with
  | nil =>
      obtain ⟨rfl, rfl⟩ := Program.walk_done.1 h
      exact ⟨[], rfl, rfl, rfl⟩
  | cons sent others =>
      obtain ⟨before, served, after, rfl, hserve, h⟩ := Program.walk_bind.1 h
      obtain ⟨rfl, rfl⟩ := walk_serve_ready hready hserve
      obtain ⟨middle, rest, last, rfl, hothers, hdone⟩ := Program.walk_bind.1 h
      obtain ⟨rfl, rfl⟩ := Program.walk_done.1 hdone
      obtain ⟨later, hlength, rfl, hgot⟩ :=
        walk_serveAll_unready (t := { t with ready := none }) rfl hothers
      refine ⟨later, hlength, ?_, ?_⟩
      · rw [List.nil_append, List.append_nil]
      · rw [List.zipWith_cons_cons, ← hgot]

/-! ## Serving some of them -/

theorem serveAll_cons (t : Tunnel) (sent : List UInt8) (later : List (List UInt8)) :
    t.serveAll (sent :: later) = (t.serve sent).bind fun r =>
      (r.2.serveAll later).bind fun others => .done (r.1 :: others.1, others.2) :=
  rfl

/-- What later local connections there are makes no difference to those before them. -/
theorem serveAll_take (handle : Handler World.calls σ) (s : σ) (t : Tunnel)
    (sents : List (List UInt8)) (n : Nat) :
    ((t.serveAll (sents.take n)).run handle s).1.1 =
        ((t.serveAll sents).run handle s).1.1.take n ∧
      (t.serveAll (sents.take n)).trace handle s <+: (t.serveAll sents).trace handle s := by
  induction sents generalizing n t s with
  | nil =>
      rw [List.take_nil]
      exact ⟨List.take_nil.symm, List.prefix_rfl⟩
  | cons sent later ih =>
      cases n with
      | zero => exact ⟨List.take_zero.symm, List.nil_prefix⟩
      | succ n =>
          obtain ⟨hrun, htrace⟩ :=
            ih ((t.serve sent).run handle s).2 ((t.serve sent).run handle s).1.2 n
          simp only [List.take_succ_cons, serveAll_cons, Program.run_bind, Program.trace_bind,
            Program.run_done, Program.trace_done, List.append_nil, hrun]
          exact ⟨trivial, (List.prefix_append_right_inj _).2 htrace⟩

/-- A tunnel that was set up has asked for the first connection to the pod, and asks for one more
    with each local connection but the first. -/
theorem serves_of_setUp {handle : Handler World.calls σ} {s s' : σ}
    (h : (setUp calledOff server exit entry).run.run handle s = (.ok t, s')) :
    ∃ port target first, Api.Target.ofText exit.address = .ok target ∧
      (setUp calledOff server exit entry).run.trace handle s =
        [⟨.host (.bind entry.address entry.port), Except.ok port⟩,
          upgrade server target (.ok first)] ∧
      ∀ sents : List (List UInt8), ∃ later : List Upgrade,
        later.length = sents.length - 1 ∧
        (t.serveAll sents).trace handle s' = later.map (upgrade server target) ∧
        ((t.serveAll sents).run handle s').1.1 =
          List.zipWith (given exit.port) (.ok first :: later) sents := by
  have hset := Program.walk_run handle (setUp calledOff server exit entry).run s
  rw [h] at hset
  obtain ⟨port, target, first, haddress, htrace, rfl⟩ := walk_setUp hset
  refine ⟨port, target, first, haddress, htrace, fun sents => ?_⟩
  exact walk_serveAll_ready rfl (Program.walk_run handle _ s')

/-- **EACH CONNECTION HAS ITS OWN UPGRADE.**  A tunnel that was set up has asked for one connection
    to the pod, and for each local connection but the first it asks for one more, and for nothing
    else.  Whatever the server answers, each local connection gets what comes of the answer with
    its own number, and no other; those that come later change nothing for it; and afterwards
    the tunnel ends without an error. -/
theorem served_apart (handle : Handler World.calls σ) (s s' : σ)
    (h : (setUp calledOff server exit entry).run.run handle s = (.ok t, s'))
    (sents : List (List UInt8)) :
    let served := (t.serveAll sents).run handle s'
    let got := served.1.1
    ∃ port target first, ∃ later : List Upgrade,
      Api.Target.ofText exit.address = .ok target ∧
      (setUp calledOff server exit entry).run.trace handle s =
        [⟨.host (.bind entry.address entry.port), Except.ok port⟩,
          upgrade server target (.ok first)] ∧
      (t.serveAll sents).trace handle s' = later.map (upgrade server target) ∧
      1 + later.length = max 1 sents.length ∧
      got.length = sents.length ∧
      (∀ (k : Nat) answer sent, (.ok first :: later)[k]? = some answer → sents[k]? = some sent →
        got[k]? = some (given exit.port answer sent)) ∧
      (∀ n, ((t.serveAll (sents.take n)).run handle s').1.1 = got.take n ∧
        (t.serveAll (sents.take n)).trace handle s' =
          (later.take (n - 1)).map (upgrade server target)) ∧
      (served.1.2.stop.run.run handle served.2).1 = .ok () := by
  intro served got
  obtain ⟨port, target, first, haddress, htrace, hserves⟩ := serves_of_setUp h
  obtain ⟨later, hlength, hevents, hgot⟩ := hserves sents
  have hcount : 1 + later.length = max 1 sents.length := by omega
  refine ⟨port, target, first, later, haddress, htrace, hevents, hcount, ?_, ?_, ?_, rfl⟩
  · show List.length served.1.1 = _
    rw [hgot, List.length_zipWith, List.length_cons]
    omega
  · intro k answer sent hanswer hsent
    show (served.1.1)[k]? = _
    rw [hgot, List.getElem?_zipWith, hanswer, hsent]
  · intro n
    obtain ⟨htaken, hbegins⟩ := serveAll_take handle s' t sents n
    obtain ⟨earlier, hearlier, hasked, -⟩ := hserves (sents.take n)
    refine ⟨htaken, ?_⟩
    rw [hevents, List.prefix_iff_eq_take, ← List.map_take] at hbegins
    rw [hbegins, hasked, List.length_map, hearlier]
    refine congrArg (List.map _) (List.take_eq_take_iff.2 ?_)
    rw [List.length_take]
    omega

/-- A scripted world whose server answers the requests for connections one after another as it
    is told. -/
def upgrading : Handler World.calls (Scripted.Scene × List Upgrade)
  | .host (.upgrade _ _), (scene, answer :: answers) => (answer, (scene, answers))
  | call, (scene, answers) =>
    let (answer, scene) := Scripted.Scene.handle call scene
    (answer, (scene, answers))

/-- A connection on which the pod sends back what it is sent. -/
def echo (port : UInt16) : Upgrade := .ok ⟨port, id⟩

/-- A server that refuses one connection, and makes another one for a wrong port. -/
def fickle : Scripted.Scene × List Upgrade :=
  (⟨{ tempDir := "/tmp" }, {}, [], [], [], []⟩,
    [echo 80, .error (.unreachable .networkUnreachable), echo 81, echo 80])

/-- A tunnel from a local port to one of a pod. -/
def toWeb : Attempt World.calls Tunnel :=
  setUp false "server" ⟨"dev", "web", 80⟩ ⟨.localhost, 8080⟩

theorem served_apart_fickle : ∃ t s', toWeb.run.run upgrading fickle = (.ok t, s') ∧
    ((t.serveAll [[1], [2], [3], [4]]).run upgrading s').1.1 = [[1], [], [], [4]] ∧
    ∃ port target first, ∃ later : List Upgrade, later.length = 3 ∧
      toWeb.run.trace upgrading fickle =
        [⟨.host (.bind .localhost 8080), Except.ok port⟩, upgrade "server" target (.ok first)] ∧
      (t.serveAll [[1], [2], [3], [4]]).trace upgrading s' =
        later.map (upgrade "server" target) := by
  have hserved : (toWeb.run.run upgrading fickle).1.toOption.any (fun t =>
      ((t.serveAll [[1], [2], [3], [4]]).run upgrading
        (toWeb.run.run upgrading fickle).2).1.1 = [[1], [], [], [4]]) = true := by
    decide +kernel
  cases hrun : toWeb.run.run upgrading fickle with
  | mk result s' =>
      rw [hrun] at hserved
      cases result with
      | error e => exact nomatch hserved
      | ok t =>
          obtain ⟨port, target, first, later, -, hset, hasked, hlength, -⟩ :=
            served_apart upgrading fickle s' hrun [[1], [2], [3], [4]]
          have hthree : later.length = 3 := Nat.add_left_cancel hlength
          exact ⟨t, s', rfl, of_decide_eq_true hserved, port, target, first, later, hthree, hset,
            hasked⟩

end TestCluster.Tunnel
