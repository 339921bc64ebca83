import Mysql2.Auth.Defaults
import Mysql2.Connection.Compression
import Mysql2.Connection.Frames

/-!
# The upgrade to TLS

The handler of the hello packet replaces the stream of the connection while the
packet parser is inside of the chunk that the packet came with.  The parser goes
on with the rest of that chunk, and it is the same parser that reads the
decrypted stream.

What a connection does is independent of what it receives in clear text behind
the hello packet exactly if nothing follows the packet in its chunk.
-/

namespace Mysql2.Auth

open Mysql2.Packets
open Mysql2.Parser
open Mysql2.Connection (plainHeader encodeFrame)
open Mysql2.Compression (compressedHeader)
open Mysql2.Transition

namespace AuthConnection

/-- The `data` listener of the original stream is in place. -/
def listensClear (conn : AuthConnection) : Bool :=
  match conn.stream with
  | .original _ => !conn.closedState
  | _ => false

/-- The `data` listener of the TLS socket is in place. -/
def listensSecure (conn : AuthConnection) : Bool :=
  match conn.stream with
  | .original _ => false
  | _ => !conn.closedState

/-- `enableCompression` has been called. -/
def compressed (conn : AuthConnection) : Bool :=
  conn.authorized && conn.config.compress

end AuthConnection

/-- A connection and its packet parser. -/
structure Channel where
  packetParser : PacketParser
  conn : AuthConnection

/-- A chunk arrives in clear text or decrypted, `startTLS` calls back, or a
`ChangeUser` command starts. -/
inductive ChannelEvent
  | clear (chunk : Bytes)
  | secure (chunk : Bytes)
  | onSecure (result : Except JsError Unit)
  | changeUser (options : ChangeUserOptions)

/-- Every event but a chunk in clear text. -/
def ChannelEvent.notClear : ChannelEvent → Bool
  | .clear _ => false
  | _ => true

/-- A packet that the parser hands over, and what the connection phase does. -/
inductive ChannelOutput
  | packet (delivery : Delivery)
  | auth (output : AuthOutput)

/-- The packets that the parser hands over. -/
def ChannelOutput.delivery? : ChannelOutput → Option Delivery
  | .packet delivery => some delivery
  | .auth _ => none

namespace Channel

/-- `new BaseConnection(opts)`. -/
def new (config : AuthConfig) (encrypted : Bool) : Channel :=
  { packetParser := .new plainHeader
    conn := .new config encrypted }

/-- The parser's `onPacket`: `handlePacket`, or the handler of compressed
packets. -/
def onPacket (runtime : Runtime) (headerLength : HeaderLength) :
    Step AuthConnection Packet ChannelOutput :=
  fun conn packet =>
    if headerLength.val = 7 then
      (conn, [.packet (delivery headerLength packet)])
    else
      let handled := conn.handlePacket runtime packet
      (handled.1, .packet (delivery headerLength packet) :: handled.2.map .auth)

/-- `this.packetParser.execute(data)`.  The parser that `enableCompression`
creates reads the next chunk. -/
def execute (runtime : Runtime) (channel : Channel) (chunk : Bytes) :
    Channel × List ChannelOutput :=
  let parsed := channel.packetParser.executeChunk chunk
  let handled :=
    run (onPacket runtime channel.packetParser.packetHeaderLength) channel.conn parsed.2
  ({ packetParser :=
      if !channel.conn.compressed && handled.1.compressed then .new compressedHeader
      else parsed.1
     conn := handled.1 }, handled.2)

/-- An event of the connection phase that is not a packet. -/
def proceed (runtime : Runtime) (channel : Channel) (event : AuthEvent) :
    Channel × List ChannelOutput :=
  let proceeded := AuthConnection.step runtime channel.conn event
  ({ channel with conn := proceeded.1 }, proceeded.2.map .auth)

/-- A step. -/
def step (runtime : Runtime) : Step Channel ChannelEvent ChannelOutput
  | channel, .clear chunk =>
      if channel.conn.listensClear then channel.execute runtime chunk else (channel, [])
  | channel, .secure chunk =>
      if channel.conn.listensSecure then channel.execute runtime chunk else (channel, [])
  | channel, .onSecure result => channel.proceed runtime (.onSecure result)
  | channel, .changeUser options => channel.proceed runtime (.changeUser options)

end Channel

/-! ## Listeners -/

section Listeners

variable {runtime : Runtime} {conn : AuthConnection}

/-- The fields that the listeners depend on are left alone. -/
structure SameListeners (conn after : AuthConnection) : Prop where
  stream : after.stream = conn.stream
  closedState : after.closedState = conn.closedState
  authorized : after.authorized = conn.authorized

theorem SameListeners.refl (conn : AuthConnection) : SameListeners conn conn :=
  ⟨rfl, rfl, rfl⟩

theorem SameListeners.trans {after later : AuthConnection} (first : SameListeners conn after)
    (second : SameListeners after later) : SameListeners conn later :=
  ⟨second.stream.trans first.stream, second.closedState.trans first.closedState,
    second.authorized.trans first.authorized⟩

theorem SameListeners.listensClear {after : AuthConnection} (same : SameListeners conn after) :
    after.listensClear = conn.listensClear := by
  unfold AuthConnection.listensClear
  rw [same.stream, same.closedState]

theorem listensClear_closed (closed : conn.closedState = true) : conn.listensClear = false := by
  unfold AuthConnection.listensClear
  rw [closed]
  split <;> rfl

theorem sameListeners_sendCredentials :
    SameListeners conn (conn.sendCredentials runtime).1 := by
  unfold AuthConnection.sendCredentials
  cases conn.handshake with
  | none => exact .refl conn
  | some handshake =>
      dsimp only
      unfold AuthConnection.sendHandshakeResponse
      split
      · exact ⟨rfl, rfl, rfl⟩
      · dsimp only
        split
        · exact ⟨rfl, rfl, rfl⟩
        · unfold AuthConnection.initializeAuthPlugin
          split
          · exact ⟨rfl, rfl, rfl⟩
          · exact ⟨rfl, rfl, rfl⟩

theorem sameListeners_legacySwitchResponse (response : Except JsError Bytes) :
    SameListeners conn (conn.legacySwitchResponse response).1 := by
  cases response with
  | ok data => exact .refl conn
  | error err => exact ⟨rfl, rfl, rfl⟩

theorem sameListeners_callAuthPlugin (plugin : AuthPlugin) (data : Bytes) :
    SameListeners conn (conn.callAuthPlugin runtime plugin data).1 := by
  unfold AuthConnection.callAuthPlugin
  dsimp only
  split
  · exact ⟨rfl, rfl, rfl⟩
  · exact ⟨rfl, rfl, rfl⟩
  · exact ⟨rfl, rfl, rfl⟩

theorem sameListeners_authSwitchRequest (packet : Packet) :
    SameListeners conn (conn.authSwitchRequest runtime packet).1 := by
  unfold AuthConnection.authSwitchRequest
  split
  · exact .refl conn
  · next request _ _ =>
      unfold AuthConnection.switchAuth
      dsimp only
      split
      · exact sameListeners_legacySwitchResponse _
      · split
        · exact .refl conn
        · split
          · exact .refl conn
          · exact sameListeners_callAuthPlugin _ _

theorem sameListeners_authSwitchRequestMoreData (packet : Packet) :
    SameListeners conn (conn.authSwitchRequestMoreData runtime packet).1 := by
  unfold AuthConnection.authSwitchRequestMoreData
  split
  · exact .refl conn
  · split
    · exact sameListeners_legacySwitchResponse _
    · split
      · exact .refl conn
      · exact sameListeners_callAuthPlugin _ _

theorem sameListeners_nextAuthenticationFactor :
    SameListeners conn conn.nextAuthenticationFactor := by
  unfold AuthConnection.nextAuthenticationFactor
  split
  · exact .refl conn
  · exact ⟨rfl, rfl, rfl⟩

theorem sameListeners_concludeAuthSwitch
    {answered : AuthConnection × Except JsError (List AuthOutput)}
    (same : SameListeners conn answered.1) :
    SameListeners conn (AuthConnection.concludeAuthSwitch answered).1 := by
  unfold AuthConnection.concludeAuthSwitch
  split
  · exact same
  · exact same.trans ⟨rfl, rfl, rfl⟩

/-- The handler of the packets behind the hello packet does not touch the
stream. -/
theorem listensClear_handshakeResult (packet : Packet) :
    (conn.handshakeResult runtime packet).1.listensClear = conn.listensClear := by
  have switched : SameListeners conn
      (conn.nextAuthenticationFactor.authSwitchRequest runtime packet).1 :=
    sameListeners_nextAuthenticationFactor.trans (sameListeners_authSwitchRequest packet)
  unfold AuthConnection.handshakeResult
  split
  · exact (sameListeners_concludeAuthSwitch
      (sameListeners_authSwitchRequestMoreData packet)).listensClear
  · exact (sameListeners_concludeAuthSwitch switched).listensClear
  · exact (sameListeners_concludeAuthSwitch switched).listensClear
  · rfl
  · rfl

/-- What the handler of the hello packet does to the listeners: it does not
return to the original stream, and leaves it behind an `SSLRequest`. -/
structure HelloHandled (conn : AuthConnection) (result : AuthConnection × List AuthOutput) :
    Prop where
  authorized : result.1.authorized = conn.authorized
  kept : conn.listensClear = false → result.1.listensClear = false
  requested : ∀ request, AuthOutput.sslRequest request ∈ result.2 →
    result.1.listensClear = false

theorem helloHandled_handleFatalError (err : JsError) :
    HelloHandled conn (conn.handleFatalError err) :=
  ⟨rfl, fun _ => listensClear_closed rfl, fun _ _ => listensClear_closed rfl⟩

theorem helloHandled_fail (err : JsError) : HelloHandled conn (conn.fail err) := by
  refine ⟨rfl, id, ?_⟩
  intro request requestMem
  cases List.mem_singleton.mp requestMem

theorem helloHandled_upgrade (createSecureContext : Except JsError Unit) :
    HelloHandled conn (conn.upgrade createSecureContext) := by
  unfold AuthConnection.upgrade
  dsimp only
  split
  · exact ⟨rfl, fun _ => listensClear_closed rfl, fun _ _ => listensClear_closed rfl⟩
  · cases createSecureContext with
    | error err => exact ⟨rfl, fun _ => listensClear_closed rfl, fun _ _ => listensClear_closed rfl⟩
    | ok _ => exact ⟨rfl, fun _ => rfl, fun _ _ => rfl⟩

/-- The credentials are a response, or none. -/
theorem sendCredentials_silent {outputs : List AuthOutput}
    (sent : (conn.sendCredentials runtime).2 = .ok outputs) (request : Packet) :
    AuthOutput.sslRequest request ∉ outputs := by
  unfold AuthConnection.sendCredentials at sent
  split at sent
  · cases sent
  · unfold AuthConnection.sendHandshakeResponse at sent
    split at sent
    · cases sent
    · cases sent
      intro requestMem
      cases List.mem_singleton.mp requestMem

theorem helloHandled_handshakeInit (helloPacket : Packet) :
    HelloHandled conn (conn.handshakeInit runtime helloPacket) := by
  unfold AuthConnection.handshakeInit
  split
  · exact helloHandled_handleFatalError _
  · next handshake _ _ =>
      dsimp only
      split
      · next createSecureContext _ =>
          split
          · have upgraded : HelloHandled (conn.negotiate handshake) _ :=
              helloHandled_upgrade createSecureContext
            exact ⟨upgraded.authorized, upgraded.kept, upgraded.requested⟩
          · have failed : HelloHandled (conn.negotiate handshake) _ :=
              helloHandled_fail AuthConnection.noSSLSupportError
            exact ⟨failed.authorized, failed.kept, failed.requested⟩
      · have same : SameListeners (conn.negotiate handshake)
            ((conn.negotiate handshake).sendCredentials runtime).1 :=
          sameListeners_sendCredentials
        have silent : ∀ outputs, ((conn.negotiate handshake).sendCredentials runtime).2 =
            .ok outputs → ∀ request, AuthOutput.sslRequest request ∉ outputs :=
          fun _ sent => sendCredentials_silent sent
        generalize (conn.negotiate handshake).sendCredentials runtime = result at same silent
        obtain ⟨after, answered⟩ := result
        cases answered with
        | error err =>
            exact ⟨same.authorized, fun _ => listensClear_closed rfl,
              fun _ _ => listensClear_closed rfl⟩
        | ok outputs =>
            refine ⟨same.authorized, ?_, ?_⟩
            · intro before
              exact same.listensClear.trans before
            · intro request requestMem
              exact absurd requestMem (silent outputs rfl request)

/-- A packet for a connection that waits for the hello packet. -/
theorem helloHandled_handlePacket (next : conn.next = some .handshakeInit) (packet : Packet) :
    HelloHandled conn (conn.handlePacket runtime packet) := by
  unfold AuthConnection.handlePacket
  rw [next]
  dsimp only
  split
  · exact ⟨rfl, id, fun _ requestMem => absurd requestMem List.not_mem_nil⟩
  · unfold AuthConnection.execute
    split
    · split
      · exact helloHandled_handleFatalError _
      · exact helloHandled_fail _
    · exact helloHandled_handshakeInit packet

/-- Once the listener of the original stream is gone, it does not come back. -/
theorem listensClear_handlePacket (before : conn.listensClear = false) (packet : Packet) :
    (conn.handlePacket runtime packet).1.listensClear = false := by
  cases next : conn.next with
  | none =>
      unfold AuthConnection.handlePacket
      rw [next]
      exact before
  | some handler =>
      cases handler with
      | handshakeInit => exact (helloHandled_handlePacket next packet).kept before
      | handshakeResult =>
          unfold AuthConnection.handlePacket
          rw [next]
          dsimp only
          split
          · exact before
          · unfold AuthConnection.execute
            split
            · split
              · exact listensClear_closed rfl
              · exact before
            · exact (listensClear_handshakeResult packet).trans before

theorem listensClear_onSecure (before : conn.listensClear = false)
    (result : Except JsError Unit) : (conn.onSecure runtime result).1.listensClear = false := by
  unfold AuthConnection.onSecure
  split
  · exact before
  · have same : SameListeners { conn with stream := .secure }
        ({ conn with stream := .secure }.sendCredentials runtime).1 :=
      sameListeners_sendCredentials
    split
    · exact listensClear_closed rfl
    · next after outputs sent =>
        rw [sent] at same
        exact same.listensClear
  · exact before

theorem listensClear_startChangeUser (before : conn.listensClear = false)
    (options : ChangeUserOptions) :
    (conn.startChangeUser runtime options).1.listensClear = false := by
  unfold AuthConnection.startChangeUser
  dsimp only
  split
  · exact listensClear_closed rfl
  · unfold AuthConnection.changeUserStart
    dsimp only
    split
    · exact listensClear_closed rfl
    · exact before

theorem listensClear_step (before : conn.listensClear = false) (event : AuthEvent) :
    (AuthConnection.step runtime conn event).1.listensClear = false := by
  cases event with
  | packet packet => exact listensClear_handlePacket before packet
  | onSecure result => exact listensClear_onSecure before result
  | changeUser options =>
      change (if conn.next.isSome ∨ conn.fatalError then (conn, [])
        else conn.startChangeUser runtime options).1.listensClear = false
      split
      · exact before
      · exact listensClear_startChangeUser before options

end Listeners

/-! ## Chunks -/

namespace Channel

section Chunks

variable {runtime : Runtime} {channel : Channel}

theorem step_clear (listens : channel.conn.listensClear = true) (chunk : Bytes) :
    step runtime channel (.clear chunk) = channel.execute runtime chunk :=
  if_pos listens

theorem step_clear_ignored (gone : channel.conn.listensClear = false) (chunk : Bytes) :
    step runtime channel (.clear chunk) = (channel, []) :=
  if_neg (ne_true_of_eq_false gone)

/-- However many packets a chunk contains, the listener stays away. -/
theorem listensClear_execute (before : channel.conn.listensClear = false) (chunk : Bytes) :
    (channel.execute runtime chunk).1.conn.listensClear = false := by
  refine run_preserves (fun conn : AuthConnection => conn.listensClear = false) ?_ _ before
  intro conn packet connBefore
  unfold onPacket
  split
  · exact connBefore
  · exact listensClear_handlePacket connBefore packet

theorem listensClear_channelStep (before : channel.conn.listensClear = false)
    (event : ChannelEvent) : (channel.step runtime event).1.conn.listensClear = false := by
  cases event with
  | clear chunk =>
      rw [step_clear_ignored before]
      exact before
  | secure chunk =>
      change (if channel.conn.listensSecure then channel.execute runtime chunk
        else (channel, [])).1.conn.listensClear = false
      split
      · exact listensClear_execute before chunk
      · exact before
  | onSecure result => exact listensClear_step before (.onSecure result)
  | changeUser options => exact listensClear_step before (.changeUser options)

/-- Behind the upgrade, chunks in clear text change nothing. -/
theorem run_notClear (before : channel.conn.listensClear = false) (events : List ChannelEvent) :
    run (step runtime) channel (events.filter ChannelEvent.notClear) =
      run (step runtime) channel events := by
  apply run_filter (fun channel : Channel => channel.conn.listensClear = false)
  · intro channel event channelBefore
    exact listensClear_channelStep channelBefore event
  · intro channel event channelBefore isClear
    cases event with
    | clear chunk => exact step_clear_ignored channelBefore chunk
    | secure chunk => cases isClear
    | onSecure result => cases isClear
    | changeUser options => cases isClear
  · exact before

/-- The packets that the parser hands over in a chunk are those that it finds. -/
theorem run_onPacket_deliveries (headerLength : HeaderLength) (conn : AuthConnection)
    (packets : List Packet) :
    (run (onPacket runtime headerLength) conn packets).2.filterMap ChannelOutput.delivery? =
      packets.map (delivery headerLength) := by
  have silent : ∀ outputs : List AuthOutput,
      (outputs.map ChannelOutput.auth).filterMap ChannelOutput.delivery? = [] := by
    intro outputs
    rw [List.filterMap_map]
    exact List.filterMap_eq_nil_iff.mpr fun _ _ => rfl
  induction packets generalizing conn with
  | nil => rfl
  | cons packet packets ih =>
      have first : (onPacket runtime headerLength conn packet).2.filterMap
          ChannelOutput.delivery? = [delivery headerLength packet] := by
        unfold onPacket
        split
        · rfl
        · exact congrArg (delivery headerLength packet :: ·) (silent _)
      rw [run_cons, List.filterMap_append, ih, first, List.map_cons, List.singleton_append]

/-- A chunk without a complete packet. -/
theorem execute_incomplete {chunk : Bytes}
    (incomplete : (channel.packetParser.executeChunk chunk).2 = []) :
    channel.execute runtime chunk =
      ({ channel with packetParser := (channel.packetParser.executeChunk chunk).1 }, []) := by
  unfold execute
  dsimp only
  rw [incomplete, run_nil]
  dsimp only
  rw [if_neg]
  rw [Bool.and_eq_true, Bool.not_eq_true']
  rintro ⟨uncompressed, compressed⟩
  rw [uncompressed] at compressed
  exact Bool.noConfusion compressed

/-- The chunk that completes the hello packet, and no other. -/
theorem execute_hello {chunk : Bytes} {packet : Packet}
    (plain : channel.packetParser.packetHeaderLength = plainHeader)
    (next : channel.conn.next = some .handshakeInit)
    (unauthorized : channel.conn.authorized = false)
    (complete : (channel.packetParser.executeChunk chunk).2 = [packet]) :
    channel.execute runtime chunk =
      ({ packetParser := (channel.packetParser.executeChunk chunk).1
         conn := (channel.conn.handlePacket runtime packet).1 },
        .packet (delivery plainHeader packet) ::
          (channel.conn.handlePacket runtime packet).2.map .auth) := by
  have handled : HelloHandled channel.conn (channel.conn.handlePacket runtime packet) :=
    helloHandled_handlePacket next packet
  have uncompressed : (channel.conn.handlePacket runtime packet).1.compressed = false := by
    unfold AuthConnection.compressed
    rw [handled.authorized, unauthorized]
    rfl
  have received : run (onPacket runtime plainHeader) channel.conn [packet] =
      ((channel.conn.handlePacket runtime packet).1,
        .packet (delivery plainHeader packet) ::
          (channel.conn.handlePacket runtime packet).2.map .auth) := by
    rw [run_cons, run_nil, List.append_nil]
    rfl
  unfold execute
  dsimp only
  rw [complete, plain, received]
  dsimp only
  rw [uncompressed, Bool.and_false]
  rfl

/-- Chunks that do not complete a packet. -/
theorem run_incomplete (listens : channel.conn.listensClear = true) {chunks : List Bytes}
    (incomplete : (run PacketParser.executeChunk channel.packetParser chunks).2 = []) :
    run (step runtime) channel (chunks.map .clear) =
      ({ channel with
        packetParser := (run PacketParser.executeChunk channel.packetParser chunks).1 }, []) := by
  induction chunks generalizing channel with
  | nil => rfl
  | cons chunk chunks ih =>
      obtain ⟨first, later⟩ := List.append_eq_nil_iff.mp incomplete
      let behind : Channel :=
        { channel with packetParser := (channel.packetParser.executeChunk chunk).1 }
      have behindListens : behind.conn.listensClear = true := listens
      have laterRun := @ih behind behindListens later
      rw [List.map_cons, run_cons, step_clear listens, execute_incomplete first, laterRun]
      rfl

end Chunks

/-! ## The chunk with the hello packet -/

section Hello

variable {runtime : Runtime} {config : AuthConfig} {encrypted : Bool} {before : List Bytes}

/-- The packets behind some chunks and one more, if the packets come with the
last of them. -/
structure Arrives (before : List Bytes) (chunk : Bytes) : Prop where
  nonempty : ∀ other ∈ before ++ [chunk], other ≠ []
  incomplete : (framing plainHeader before.flatten).packets = []

/-- The parser behind some chunks. -/
def parserBehind (before : List Bytes) : PacketParser :=
  (run PacketParser.executeChunk (.new plainHeader) before).1

theorem Arrives.parsed {chunk : Bytes} (arrives : Arrives before chunk) :
    let parsed := (parserBehind before).executeChunk chunk
    let reference := framing plainHeader (before.flatten ++ chunk)
    parsed.2.map (delivery plainHeader) = reference.packets ∧
      parsed.1.retained = reference.tail ∧ parsed.1.Collects reference.unfinished := by
  have firstRefines := PacketParser.run_executeChunk_eq_framing plainHeader before
    fun other otherMem => arrives.nonempty other (List.mem_append_left [chunk] otherMem)
  have allRefine :=
    PacketParser.run_executeChunk_eq_framing plainHeader (before ++ [chunk]) arrives.nonempty
  have silent : (run PacketParser.executeChunk (.new plainHeader) before).2 = [] :=
    List.map_eq_nil_iff.mp (firstRefines.1.trans arrives.incomplete)
  rw [run_append, silent, List.flatten_append, List.flatten_singleton] at allRefine
  rw [run_cons, run_nil, List.append_nil, List.nil_append] at allRefine
  exact allRefine

theorem Arrives.run_eq {chunk : Bytes} (arrives : Arrives before chunk) :
    run (step runtime) (new config encrypted) (before.map .clear ++ [.clear chunk]) =
      execute runtime
        { packetParser := parserBehind before, conn := .new config encrypted } chunk := by
  have firstRefines := PacketParser.run_executeChunk_eq_framing plainHeader before
    fun other otherMem => arrives.nonempty other (List.mem_append_left [chunk] otherMem)
  have silent : (run PacketParser.executeChunk (.new plainHeader) before).2 = [] :=
    List.map_eq_nil_iff.mp (firstRefines.1.trans arrives.incomplete)
  have listens : (new config encrypted).conn.listensClear = true := rfl
  rw [run_append, run_incomplete listens silent, run_cons, run_nil]
  dsimp only
  rw [step_clear rfl, List.nil_append, List.append_nil]
  rfl

/-- The hello packet is complete with the last chunk. -/
theorem arrives_of_hello {last : Bytes} {hello : Delivery}
    (nonempty : ∀ chunk ∈ before ++ [last], chunk ≠ [])
    (isHello : framing plainHeader (before.flatten ++ last) = ⟨[hello], [], []⟩) :
    Arrives before last := by
  refine ⟨nonempty, ?_⟩
  have packets := congrArg Framing.packets (framing_append plainHeader before.flatten last)
  rw [isHello] at packets
  dsimp only at packets
  cases first : (framing plainHeader before.flatten).packets with
  | nil => rfl
  | cons packet more =>
      -- the hello packet would be complete without the last chunk
      rw [first] at packets
      obtain ⟨isFirst, noMore⟩ := List.cons.inj packets
      have same : (framing plainHeader (before.flatten ++ last)).packets =
          (framing plainHeader before.flatten).packets := by
        rw [isHello, first, isFirst, (List.append_eq_nil_iff.mp noMore.symm).1]
      have lastEmpty : last = [] := framing_append_eq_nil same
        (by rw [isHello]) (by rw [isHello])
      exact absurd lastEmpty (nonempty last (List.mem_append_right before (.head [])))

/-- More bytes in the last chunk do not make an earlier one complete. -/
theorem Arrives.append {last : Bytes} (arrives : Arrives before last) (extra : Bytes) :
    Arrives before (last ++ extra) := by
  refine ⟨?_, arrives.incomplete⟩
  intro chunk chunkMem
  rcases List.mem_append.mp chunkMem with isBefore | isLast
  · exact arrives.nonempty chunk (List.mem_append_left [last] isBefore)
  · rw [List.mem_singleton.mp isLast]
    intro empty
    apply arrives.nonempty last (List.mem_append_right before (.head []))
    exact (List.append_eq_nil_iff.mp empty).1

theorem Arrives.plain {chunk : Bytes} (arrives : Arrives before chunk) :
    (parserBehind before).packetHeaderLength = plainHeader := by
  obtain ⟨represents, -⟩ := PacketParser.run_executeChunk_refines
    (fun other otherMem => arrives.nonempty other (List.mem_append_left [chunk] otherMem))
    (PacketParser.represents_new plainHeader) (frameReader_read_short (Nat.succ_pos 2))
  exact represents.header

/-- The packets that are handed over up to the last chunk. -/
theorem Arrives.deliveries {chunk : Bytes} (arrives : Arrives before chunk) (runtime : Runtime)
    (config : AuthConfig) (encrypted : Bool) :
    (run (step runtime) (new config encrypted)
        (before.map .clear ++ [.clear chunk])).2.filterMap ChannelOutput.delivery? =
      (framing plainHeader (before.flatten ++ chunk)).packets := by
  rw [arrives.run_eq, ← arrives.parsed.1]
  change (run (onPacket runtime (parserBehind before).packetHeaderLength) _ _).2.filterMap _ = _
  rw [arrives.plain]
  exact run_onPacket_deliveries plainHeader _ _

/-- The run up to the hello packet, if it is complete with the last chunk. -/
theorem Arrives.run_hello {chunk : Bytes} (arrives : Arrives before chunk) (runtime : Runtime)
    (config : AuthConfig) (encrypted : Bool) {hello : Delivery}
    (isHello : (framing plainHeader (before.flatten ++ chunk)).packets = [hello]) :
    ∃ packet, delivery plainHeader packet = hello ∧
      run (step runtime) (new config encrypted) (before.map .clear ++ [.clear chunk]) =
        ({ packetParser := ((parserBehind before).executeChunk chunk).1
           conn := ((AuthConnection.new config encrypted).handlePacket runtime packet).1 },
          .packet hello ::
            ((AuthConnection.new config encrypted).handlePacket runtime packet).2.map .auth) := by
  have parsed := arrives.parsed.1
  rw [isHello] at parsed
  obtain ⟨packet, complete, isDelivery⟩ := List.map_eq_singleton_iff.mp parsed
  refine ⟨packet, isDelivery, ?_⟩
  let behind : Channel :=
    { packetParser := parserBehind before
      conn := .new config encrypted }
  have executed : behind.execute runtime chunk = _ :=
    execute_hello arrives.plain rfl rfl complete
  rw [arrives.run_eq, ← isDelivery]
  exact executed

/-- Behind an `SSLRequest` the listener of the original stream is gone. -/
theorem Arrives.listensClear_requested {chunk : Bytes} (arrives : Arrives before chunk)
    {hello : Delivery} (isHello : (framing plainHeader (before.flatten ++ chunk)).packets = [hello])
    {request : Packet} (requested : .auth (.sslRequest request) ∈
      (run (step runtime) (new config encrypted) (before.map .clear ++ [.clear chunk])).2) :
    (run (step runtime) (new config encrypted)
      (before.map .clear ++ [.clear chunk])).1.conn.listensClear = false := by
  obtain ⟨packet, -, helloRun⟩ := arrives.run_hello runtime config encrypted isHello
  rw [helloRun] at requested ⊢
  have handled : HelloHandled (.new config encrypted)
      ((AuthConnection.new config encrypted).handlePacket runtime packet) :=
    helloHandled_handlePacket rfl packet
  rcases List.mem_cons.mp requested with impossible | inHandled
  · cases impossible
  · obtain ⟨output, outputMem, isRequest⟩ := List.mem_map.mp inHandled
    cases isRequest
    exact handled.requested request outputMem

/-- Bytes behind the hello packet in its chunk make a difference. -/
theorem extra_eq_nil_of_run_eq {last extra : Bytes} {hello : Delivery}
    (nonempty : ∀ chunk ∈ before ++ [last], chunk ≠ [])
    (isHello : framing plainHeader (before.flatten ++ last) = ⟨[hello], [], []⟩)
    (same : run (step runtime) (new config encrypted)
        (before.map .clear ++ [.clear (last ++ extra)]) =
      run (step runtime) (new config encrypted) (before.map .clear ++ [.clear last])) :
    extra = [] := by
  have arrives : Arrives before last := arrives_of_hello nonempty isHello
  have longer : Arrives before (last ++ extra) := arrives.append extra
  -- the packets that are handed over are the same
  have packets : (framing plainHeader (before.flatten ++ (last ++ extra))).packets = [hello] := by
    have handed := congrArg (fun result => result.2.filterMap ChannelOutput.delivery?) same
    rw [longer.deliveries, arrives.deliveries, isHello] at handed
    exact handed
  obtain ⟨packet, -, cleanRun⟩ :=
    arrives.run_hello runtime config encrypted (congrArg Framing.packets isHello)
  obtain ⟨longerPacket, -, longerRun⟩ := longer.run_hello runtime config encrypted packets
  rw [cleanRun, longerRun] at same
  -- and so is what the parser keeps
  have parser : ((parserBehind before).executeChunk (last ++ extra)).1 =
      ((parserBehind before).executeChunk last).1 :=
    congrArg (fun result => result.1.packetParser) same
  obtain ⟨-, retained, collects⟩ := arrives.parsed
  obtain ⟨-, longerRetained, longerCollects⟩ := longer.parsed
  rw [isHello] at retained collects
  rw [parser] at longerRetained longerCollects
  have tail : (framing plainHeader (before.flatten ++ (last ++ extra))).tail = [] :=
    longerRetained.symm.trans retained
  have unfinished : (framing plainHeader (before.flatten ++ (last ++ extra))).unfinished = [] := by
    have parts := longerCollects.parts.symm.trans collects.parts
    exact List.map_eq_nil_iff.mp parts
  rw [← List.append_assoc] at packets unfinished tail
  exact framing_append_eq_nil (packets.trans (congrArg Framing.packets isHello).symm)
    unfinished tail

/-- For every configuration and every way in which the hello packet of a server
arrives, if the client answers it with an `SSLRequest`: what follows, in clear
text and over TLS, leads to the same states and outputs as what follows over TLS
alone exactly if the chunk that completes the hello packet ends with it. -/
theorem run_clearText_iff (runtime : Runtime) (config : AuthConfig) (encrypted : Bool)
    (before : List Bytes) (last extra : Bytes) (hello : Delivery) (request : Packet)
    (nonempty : ∀ chunk ∈ before ++ [last], chunk ≠ [])
    (isHello : framing plainHeader (before.flatten ++ last) = ⟨[hello], [], []⟩)
    (requested : .auth (.sslRequest request) ∈
      (run (step runtime) (new config encrypted) (before.map .clear ++ [.clear last])).2) :
    (∀ events, run (step runtime) (new config encrypted)
        (before.map .clear ++ .clear (last ++ extra) :: events) =
      run (step runtime) (new config encrypted)
        (before.map .clear ++ .clear last :: events.filter ChannelEvent.notClear)) ↔
      extra = [] := by
  constructor
  · intro same
    exact extra_eq_nil_of_run_eq nonempty isHello (same [])
  · rintro rfl events
    have arrives : Arrives before last := arrives_of_hello nonempty isHello
    have gone := arrives.listensClear_requested (congrArg Framing.packets isHello) requested
    rw [List.append_nil, List.append_cons, run_append, ← run_notClear gone events, ← run_append,
      ← List.append_cons]

end Hello

/-! ## Fixed inputs -/

/-- A configuration with TLS. -/
def tlsConfig : AuthConfig :=
  { passwordConfig (some "secret") none none with ssl := some (.ok ()) }

/-- The hello packet of a server with TLS, as it is sent. -/
def helloFrame : Bytes :=
  let packet := helloPacket 0x88a01 "caching_sha2_password"
  encodeFrame ⟨0, packet.buffer.drop 4⟩

/-- An OK packet that is sent behind it. -/
def okFrame : Bytes :=
  encodeFrame ⟨1, [0, 0, 0, 2, 0, 0, 0]⟩

/-- The packet around a frame of a chunk. -/
def framePacket (chunk : Bytes) (start : Nat) : Packet :=
  { sequenceId := byteAt chunk (start + 3)
    numPackets := 1
    buffer := chunk
    start := start
    offset := start + 4
    endOffset := start + 4 + readPacketLength chunk start }

theorem executeStartFrom_frame {parser : PacketParser} {chunk : Bytes} {start : Nat}
    (plain : parser.packetHeaderLength = plainHeader) (noParts : parser.largePacketParts = [])
    (complete : start + (4 + readPacketLength chunk start) ≤ chunk.length)
    (short : readPacketLength chunk start < 16777215) :
    parser.executeStartFrom chunk start =
      let later := { parser with length := readPacketLength chunk start }.executeStartFrom chunk
        (start + (4 + readPacketLength chunk start))
      (later.1, framePacket chunk start :: later.2) := by
  have header : parser.packetHeaderLength.val = 4 := congrArg Subtype.val plain
  rw [← MAX_PACKET_LENGTH_eq] at short
  rw [PacketParser.executeStartFrom]
  dsimp only
  rw [header, if_pos (by omega), if_pos (by omega)]
  unfold PacketParser.completeFrame
  dsimp only
  rw [if_pos ⟨short, noParts⟩]
  rfl

theorem executeStartFrom_end {parser : PacketParser} {chunk : Bytes} {start : Nat}
    (done : chunk.length ≤ start) : parser.executeStartFrom chunk start = (parser, []) := by
  rw [PacketParser.executeStartFrom]
  dsimp only
  rw [if_neg (by omega), if_neg (by omega)]

/-- A short frame is a packet. -/
theorem framing_encodeFrame {frame : Frame} (short : frame.body.length < 16777215)
    (idShort : frame.sequenceId < 256) :
    framing plainHeader (encodeFrame frame) = ⟨[.ofFrames [frame]], [], []⟩ := by
  have frames : (frameReader plainHeader).deframe (encodeFrame frame) = ([frame], []) := by
    have read := Connection.deframe_encodeFrames
      (List.forall_mem_singleton.mpr (Nat.lt_succ_of_lt short))
      (List.forall_mem_singleton.mpr idShort)
    rw [List.flatMap_singleton] at read
    exact read
  have notMaximal : frame.body.length ≠ MAX_PACKET_LENGTH := by
    rw [MAX_PACKET_LENGTH_eq]
    exact Nat.ne_of_lt short
  unfold framing
  dsimp only
  rw [frames, joinFrames_shorter notMaximal]
  rfl

/-- One chunk in clear text. -/
theorem run_clear_outputs (runtime : Runtime) (config : AuthConfig) (encrypted : Bool)
    (chunk : Bytes) :
    (run (step runtime) (new config encrypted) [.clear chunk]).2 =
      (run (onPacket runtime plainHeader) (.new config encrypted)
        ((PacketParser.new plainHeader).executeStartFrom chunk 0).2).2 := by
  rw [run_cons, run_nil, step_clear rfl, List.append_nil]
  rfl

theorem parsed_helloFrame :
    ((PacketParser.new plainHeader).executeStartFrom helloFrame 0).2 =
      [framePacket helloFrame 0] := by
  rw [executeStartFrom_frame rfl rfl (by decide) (by decide), executeStartFrom_end (by decide)]

theorem parsed_helloFrame_okFrame :
    ((PacketParser.new plainHeader).executeStartFrom (helloFrame ++ okFrame) 0).2 =
      [framePacket (helloFrame ++ okFrame) 0,
        framePacket (helloFrame ++ okFrame) helloFrame.length] := by
  rw [executeStartFrom_frame rfl rfl (by decide) (by decide),
    executeStartFrom_frame rfl rfl (by decide) (by decide), executeStartFrom_end (by decide)]
  rfl

/-- The client asks for TLS. -/
theorem helloFrame_startsTLS :
    .auth .startTLS ∈ (run (step keylessRuntime) (new tlsConfig false) [.clear helloFrame]).2 := by
  rw [run_clear_outputs, parsed_helloFrame]
  exact .tail _ (.tail _ (.head _))

/-- The parser hands over the OK packet although TLS has been started, and the
client takes it for the end of the handshake. -/
theorem okFrame_interpreted :
    .auth .startTLS ∈ (run (step keylessRuntime) (new tlsConfig false) [.clear helloFrame]).2 ∧
      (run (step keylessRuntime) (new tlsConfig false) [.clear (helloFrame ++ okFrame)]).2 =
        (run (step keylessRuntime) (new tlsConfig false) [.clear helloFrame]).2 ++
          [.packet ⟨1, 1, [0, 0, 0, 2, 0, 0, 0]⟩, .auth (.finished (.ok ()))] := by
  refine ⟨helloFrame_startsTLS, ?_⟩
  rw [run_clear_outputs, run_clear_outputs, parsed_helloFrame, parsed_helloFrame_okFrame]
  rfl

theorem run_clearText_helloFrame :
    run (step keylessRuntime) (new tlsConfig false) [.clear helloFrame, .clear okFrame] =
      run (step keylessRuntime) (new tlsConfig false) [.clear helloFrame] := by
  have isHello : framing plainHeader helloFrame = _ :=
    framing_encodeFrame (by decide) (by decide)
  have requested : .auth (.sslRequest (.new 0
      ([0, 0, 0, 0] ++ [1, 138, 8, 0] ++ [0, 0, 0, 0] ++ [224] ++ List.replicate 23 0) 0 36)) ∈
      (run (step keylessRuntime) (new tlsConfig false) [.clear helloFrame]).2 := by
    rw [run_clear_outputs, parsed_helloFrame]
    exact .tail _ (.head _)
  exact (run_clearText_iff keylessRuntime tlsConfig false [] helloFrame [] _ _ (by decide) isHello
    requested).mpr rfl [.clear okFrame]

end Channel

end Mysql2.Auth
