import Mathlib.Data.List.Basic
import Conscrypt.Engine.Errors

/-!
# ALPN protocol selection

A server connection configured by `NativeCrypto_SSL_configure_alpn` copies the
Java array of its protocols into its `AppData` and installs `alpn_select_callback`
on the connection's `SSL_CTX`, which every connection made from that context
shares. When a client offers protocols, the callback hands the connection's own
list and the client's to `SSL_select_next_proto` through `proto_select`: the
first protocol of the server's list that the client also offers is negotiated,
and with no such protocol, or no list, the server acknowledges none. Both lists
are in the wire format of RFC 7301, each protocol behind a length byte; the
engine checks the client's, the server's comes from Java as it is.
-/

set_option autoImplicit false

/-!
## The selection
-/

/-! `SSL_select_next_proto` walks the two lists with indices `i` and `j` and
compares a server protocol with a client protocol of the same length with
`memcmp`. A read outside either list makes the walk none. -/

namespace Conscrypt.Ssl

/-- `OPENSSL_NPN_NEGOTIATED`. -/
def opensslNpnNegotiated : Int := 1

/-- `OPENSSL_NPN_NO_OVERLAP`. -/
def opensslNpnNoOverlap : Int := 2

/-- `SSL_TLSEXT_ERR_OK`. -/
def sslTlsextErrOk : Int := 0

/-- `SSL_TLSEXT_ERR_NOACK`. -/
def sslTlsextErrNoack : Int := 3

/-- `memcmp(&a[i], &b[j], n) == 0`, none when it would read outside either array. -/
def memcmpEq (a : List UInt8) (i : Nat) (b : List UInt8) (j n : Nat) : Option Bool :=
  if i + n ≤ a.length ∧ j + n ≤ b.length then some ((a.drop i).take n == (b.drop j).take n) else none

/-- The inner loop of `SSL_select_next_proto`: whether the server's protocol at `i`,
whose length byte is `len`, equals one of the client's protocols from `j` on. -/
def clientOffers (server client : List UInt8) (i : Nat) (len : UInt8) (j : Nat) : Option Bool :=
  if h : j < client.length then
    if len = client[j] then
      match memcmpEq server (i + 1) client (j + 1) len.toNat with
      | some false => clientOffers server client i len (j + client[j].toNat + 1)
      | found => found
    else clientOffers server client i len (j + client[j].toNat + 1)
  else some false
termination_by client.length - j

/-- The outer loop of `SSL_select_next_proto`: the index of the first server
protocol from `i` on that the client offers. -/
def selectFrom (server client : List UInt8) (i : Nat) : Option (Option Nat) :=
  if h : i < server.length then
    match clientOffers server client i server[i] 0 with
    | none => none
    | some true => some (some i)
    | some false => selectFrom server client (i + server[i].toNat + 1)
  else some none
termination_by server.length - i

/-- The `n` bytes after the length byte at index `i`: what `*out` and `*out_len`
describe when `result = &list[i]`. -/
def protocolAt (list : List UInt8) (i : Nat) : List UInt8 :=
  (list.drop (i + 1)).take (list.getD i 0).toNat

/-- `SSL_select_next_proto(out, out_len, server, server_len, client, client_len)`:
the status and the protocol `*out` points at. With no overlap `*out` is the
client's first protocol, whose length byte `client[0]` it reads. -/
def sslSelectNextProto (server client : List UInt8) : Option (Int × List UInt8) := do
  match ← selectFrom server client 0 with
  | some i => pure (opensslNpnNegotiated, protocolAt server i)
  | none =>
      let _ ← client[0]?
      pure (opensslNpnNoOverlap, protocolAt client 0)

/-- `proto_select`: the callback's return value and what it leaves in `*out`
(none for `nullptr`). -/
def protoSelect (primary secondary : Option (List UInt8)) : Option (Int × Option (List UInt8)) :=
  match primary, secondary with
  | some primary, some secondary => do
      let (status, out) ← sslSelectNextProto primary secondary
      pure (if status = opensslNpnNegotiated then sslTlsextErrOk else sslTlsextErrNoack, some out)
  | _, _ => some (sslTlsextErrNoack, none)

/-- `alpn_select_callback`, with the connection's `appData->alpnProtocolsData` and
the client's offer `in`. -/
def alpnSelectCallback (alpnProtocolsData : Option (List UInt8)) (input : List UInt8) :
    Option (Int × Option (List UInt8)) :=
  protoSelect alpnProtocolsData (some input)

end Conscrypt.Ssl

/-!
## The configuration
-/

/-! The context holds whether `alpn_select_callback` is installed, and each
connection's `AppData` its copy of the server list. `setAlpnCallbackState` clears
the old copy first; a Java array it cannot read leaves none. -/

namespace Conscrypt.Ssl

/-- An `SSL_CTX` and the `AppData` ALPN lists of the connections made from it. -/
structure AlpnContext where
  /-- `SSL_CTX_set_alpn_select_cb(ctx, alpn_select_callback, nullptr)` has run. -/
  selectCallback : Bool
  /-- Each connection's `alpnProtocolsData`, none for `nullptr`. -/
  alpnProtocolsData : Nat → Option (List UInt8)

/-- A context no connection has configured. -/
def AlpnContext.initial : AlpnContext := ⟨false, fun _ => none⟩

/-- A call of `NativeCrypto_SSL_configure_alpn` on a connection of the context. -/
structure ConfigureAlpn where
  conn : Nat
  clientMode : Bool
  /-- The Java array `alpn_protocols`, none for null. -/
  alpnProtocols : Option (List UInt8)
  /-- `ScopedByteArrayRO` and `GetByteArrayElements` give the array's bytes. -/
  readable : Bool
  /-- `SSL_set_alpn_protos` returns 0. -/
  accepted : Bool

/-- `AppData::setAlpnCallbackState` with a non-null array: whether it succeeds,
and the new `alpnProtocolsData`. -/
def setAlpnCallbackState (alpnProtocolsJava : List UInt8) (readable : Bool) :
    Bool × Option (List UInt8) :=
  if readable then (true, some alpnProtocolsJava) else (false, none)

/-- `NativeCrypto_SSL_configure_alpn` on a connection with an `SSL` and an `AppData`:
the exception it raises and the context after it. A client list goes to the
engine; a server list to the connection's `AppData`. -/
def AlpnContext.sslConfigureAlpn (ctx : AlpnContext) (call : ConfigureAlpn) :
    Option JavaException × AlpnContext :=
  match call.alpnProtocols with
  | none => (none, ctx)
  | some protocols =>
      if call.clientMode then
        if call.readable && !call.accepted then (some (.ssl "Unable to set ALPN protocols for client"), ctx)
        else (none, ctx)
      else
        let (set, data) := setAlpnCallbackState protocols call.readable
        let ctx := { ctx with alpnProtocolsData := Function.update ctx.alpnProtocolsData call.conn data }
        if set then (none, { ctx with selectCallback := true })
        else (some (.ssl "Unable to set ALPN protocols for server"), ctx)

/-- The context after a sequence of calls. -/
def AlpnContext.run (ctx : AlpnContext) (calls : List ConfigureAlpn) : AlpnContext :=
  calls.foldl (fun ctx call => (ctx.sslConfigureAlpn call).2) ctx

/-- What a server connection answers a client's offer with: `alpn_select_callback`
when it is installed; without it the engine acknowledges no protocol. -/
def AlpnContext.selected (ctx : AlpnContext) (conn : Nat) (input : List UInt8) :
    Option (Int × Option (List UInt8)) :=
  if ctx.selectCallback then alpnSelectCallback (ctx.alpnProtocolsData conn) input
  else some (sslTlsextErrNoack, none)

end Conscrypt.Ssl

/-!
## Selecting from well-formed lists
-/

/-! On lists in the wire format, every read of the walk stays inside both lists,
and the walk negotiates the first server protocol the client offers. -/

namespace Conscrypt.Ssl

/-- The wire format of RFC 7301: each protocol behind its length byte. -/
def encodeProtocols : List (List UInt8) → List UInt8
  | [] => []
  | protocol :: protocols => UInt8.ofNat protocol.length :: protocol ++ encodeProtocols protocols

/-- Every protocol fits its length byte. -/
def WellFormed (protocols : List (List UInt8)) : Prop :=
  ∀ protocol ∈ protocols, protocol.length < 256

instance (protocols : List (List UInt8)) : Decidable (WellFormed protocols) :=
  inferInstanceAs (Decidable (∀ protocol ∈ protocols, protocol.length < 256))

private theorem getElem_length_append {pre rest : List UInt8} {byte : UInt8}
    (h : pre.length < (pre ++ byte :: rest).length) : (pre ++ byte :: rest)[pre.length] = byte := by
  simp [List.getElem_append_right]

private theorem ofNat_length_toNat {protocol : List UInt8} (short : protocol.length < 256) :
    (UInt8.ofNat protocol.length).toNat = protocol.length :=
  UInt8.toNat_ofNat_of_lt short

private theorem ofNat_length_eq_iff {protocol other : List UInt8} (short : protocol.length < 256)
    (otherShort : other.length < 256) :
    UInt8.ofNat protocol.length = UInt8.ofNat other.length ↔ protocol.length = other.length := by
  refine ⟨fun same => ?_, fun same => by rw [same]⟩
  have := congrArg UInt8.toNat same
  rwa [ofNat_length_toNat short, ofNat_length_toNat otherShort] at this

theorem protocolAt_encode (pre rest protocol : List UInt8) (short : protocol.length < 256) :
    protocolAt (pre ++ UInt8.ofNat protocol.length :: (protocol ++ rest)) pre.length = protocol := by
  simp [protocolAt, getElem_length_append, ofNat_length_toNat short]

/-- Two protocols of one length are compared inside both lists. -/
theorem memcmpEq_encode {spre srest pre crest protocol other : List UInt8}
    (same : protocol.length = other.length) :
    memcmpEq (spre ++ UInt8.ofNat protocol.length :: (protocol ++ srest)) (spre.length + 1)
      (pre ++ UInt8.ofNat other.length :: (other ++ crest)) (pre.length + 1) protocol.length =
        some (protocol == other) := by
  simp [memcmpEq, same]
  omega

/-- The inner loop on a client list in the wire format: whether the client offers
the server protocol it is given. -/
theorem clientOffers_encode {spre srest protocol : List UInt8} (short : protocol.length < 256)
    (pre : List UInt8) (offer : List (List UInt8)) (wellFormed : WellFormed offer) :
    clientOffers (spre ++ UInt8.ofNat protocol.length :: (protocol ++ srest)) (pre ++ encodeProtocols offer)
      spre.length (UInt8.ofNat protocol.length) pre.length = some (offer.contains protocol) := by
  induction offer generalizing pre with
  | nil => rw [clientOffers, dif_neg (by simp [encodeProtocols])]; rfl
  | cons other offer ih =>
      have otherShort := wellFormed other (List.mem_cons_self _ _)
      have next := ih (pre ++ UInt8.ofNat other.length :: other) (fun p m => wellFormed p (List.mem_cons_of_mem _ m))
      simp only [List.append_assoc, List.cons_append, List.length_append, List.length_cons] at next
      rw [clientOffers, dif_pos (by simp [encodeProtocols])]
      simp only [encodeProtocols, List.cons_append, getElem_length_append, ofNat_length_toNat otherShort,
        ofNat_length_toNat short, ofNat_length_eq_iff short otherShort, List.contains_cons]
      by_cases same : protocol.length = other.length
      · rw [if_pos same, memcmpEq_encode same]
        by_cases equal : protocol = other
        · simp [equal]
        · simpa [beq_false_of_ne equal, Nat.add_assoc] using next
      · have differ : protocol ≠ other := fun equal => same (congrArg List.length equal)
        simpa [same, beq_false_of_ne differ, Nat.add_assoc] using next

/-- The outer loop on a server list in the wire format finds the first protocol
the client offers. -/
theorem selectFrom_encode {offer : List (List UInt8)} (offerWellFormed : WellFormed offer)
    (pre : List UInt8) (protocols : List (List UInt8)) (wellFormed : WellFormed protocols) :
    (selectFrom (pre ++ encodeProtocols protocols) (encodeProtocols offer) pre.length).map
      (Option.map (protocolAt (pre ++ encodeProtocols protocols))) = some (protocols.find? offer.contains) := by
  induction protocols generalizing pre with
  | nil => rw [selectFrom, dif_neg (by simp [encodeProtocols])]; rfl
  | cons protocol protocols ih =>
      have short := wellFormed protocol (List.mem_cons_self _ _)
      have next := ih (pre ++ UInt8.ofNat protocol.length :: protocol)
        (fun p m => wellFormed p (List.mem_cons_of_mem _ m))
      simp only [List.append_assoc, List.cons_append, List.length_append, List.length_cons] at next
      have offers := @clientOffers_encode pre (encodeProtocols protocols) protocol short [] offer offerWellFormed
      simp only [List.nil_append, List.length_nil] at offers
      rw [selectFrom, dif_pos (by simp [encodeProtocols])]
      simp only [encodeProtocols, List.cons_append, getElem_length_append, ofNat_length_toNat short, offers,
        List.find?_cons]
      cases offer.contains protocol
      · simpa [Nat.add_assoc] using next
      · simp [protocolAt_encode _ _ _ short]

/-- On lists in the wire format and a client offer of at least one protocol,
`SSL_select_next_proto` reads only inside both lists and negotiates the server's
first protocol that the client offers; with none, `*out` is the client's first. -/
theorem sslSelectNextProto_encode {protocols offer : List (List UInt8)} (wellFormed : WellFormed protocols)
    (offerWellFormed : WellFormed offer) (offered : offer ≠ []) :
    sslSelectNextProto (encodeProtocols protocols) (encodeProtocols offer) =
      some (match protocols.find? offer.contains with
        | some protocol => (opensslNpnNegotiated, protocol)
        | none => (opensslNpnNoOverlap, offer.head offered)) := by
  have walk := selectFrom_encode offerWellFormed [] protocols wellFormed
  simp only [List.nil_append, List.length_nil] at walk
  obtain ⟨first, rest, rfl⟩ := List.exists_cons_of_ne_nil offered
  have firstShort := offerWellFormed first (List.mem_cons_self _ _)
  unfold sslSelectNextProto
  cases selected : selectFrom (encodeProtocols protocols) (encodeProtocols (first :: rest)) 0 with
  | none => simp [selected] at walk
  | some index =>
      rw [selected] at walk
      cases index with
      | none =>
          simp only [Option.map_some', Option.map_none', Option.some.injEq] at walk
          simpa [← walk, encodeProtocols] using protocolAt_encode [] (encodeProtocols rest) first firstShort
      | some index =>
          simp only [Option.map_some', Option.some.injEq] at walk
          simp [← walk]
/-- A connection whose `AppData` holds a server list in the wire format answers
a client offer the engine accepted by negotiating the first protocol of its own
list that the client offers, and acknowledges none when there is none. -/
theorem alpn_negotiates_server_preference {protocols offer : List (List UInt8)} (wellFormed : WellFormed protocols)
    (offerWellFormed : WellFormed offer) (offered : offer ≠ []) :
    alpnSelectCallback (some (encodeProtocols protocols)) (encodeProtocols offer) =
      some (match protocols.find? offer.contains with
        | some protocol => (sslTlsextErrOk, some protocol)
        | none => (sslTlsextErrNoack, some (offer.head offered))) := by
  simp only [alpnSelectCallback, protoSelect, sslSelectNextProto_encode wellFormed offerWellFormed offered]
  cases protocols.find? offer.contains <;> rfl

theorem alpn_negotiates_server_preference_h2 :
    WellFormed [[104, 50], [104, 116, 116, 112, 47, 49, 46, 49]] ∧
      WellFormed [[104, 116, 116, 112, 47, 49, 46, 49], [104, 50]] ∧
      [[(104 : UInt8), 116, 116, 112, 47, 49, 46, 49], [104, 50]] ≠ [] ∧
      alpnSelectCallback (some (encodeProtocols [[104, 50], [104, 116, 116, 112, 47, 49, 46, 49]]))
        (encodeProtocols [[104, 116, 116, 112, 47, 49, 46, 49], [104, 50]]) = some (sslTlsextErrOk, some [104, 50]) :=
  ⟨by decide, by decide, by decide, (alpn_negotiates_server_preference (by decide) (by decide) (by decide)).trans rfl⟩

end Conscrypt.Ssl

/-!
## One context, many connections
-/

/-! The callback is installed on the context, but what it answers a client on
one connection is read from that connection's own `AppData`. A call changes
only its own connection's list, so over any run the answer depends on the
calls made on that connection alone. -/

namespace Conscrypt.Ssl

/-- What a call does to the context: a readable server list replaces the
connection's copy and installs the callback, an unreadable one clears the copy,
and a client list or no list leaves the context as it is. -/
theorem AlpnContext.sslConfigureAlpn_snd (ctx : AlpnContext) (call : ConfigureAlpn) :
    (ctx.sslConfigureAlpn call).2 =
      if call.clientMode = false ∧ call.alpnProtocols.isSome then
        ⟨ctx.selectCallback || call.readable,
          Function.update ctx.alpnProtocolsData call.conn (if call.readable then call.alpnProtocols else none)⟩
      else ctx := by
  rcases call with ⟨conn, clientMode, _ | protocols, readable, accepted⟩
  · simp [AlpnContext.sslConfigureAlpn]
  · cases clientMode
    · cases readable <;> simp [AlpnContext.sslConfigureAlpn, setAlpnCallbackState]
    · simp only [AlpnContext.sslConfigureAlpn]
      split_ifs <;> simp_all

section
variable (conn : Nat)

theorem AlpnContext.sslConfigureAlpn_other {ctx : AlpnContext} {call : ConfigureAlpn} (other : call.conn ≠ conn) :
    (ctx.sslConfigureAlpn call).2.alpnProtocolsData conn = ctx.alpnProtocolsData conn := by
  rw [AlpnContext.sslConfigureAlpn_snd]
  split_ifs <;> simp [Function.update_noteq (Ne.symm other)]

theorem AlpnContext.sslConfigureAlpn_congr {ctx ctx' : AlpnContext} (call : ConfigureAlpn)
    (same : ctx.alpnProtocolsData conn = ctx'.alpnProtocolsData conn) :
    (ctx.sslConfigureAlpn call).2.alpnProtocolsData conn = (ctx'.sslConfigureAlpn call).2.alpnProtocolsData conn := by
  simp only [AlpnContext.sslConfigureAlpn_snd]
  split_ifs <;> simp [Function.update, same]

end

/-- Every connection holding a list has the callback installed. -/
def AlpnContext.Installed (ctx : AlpnContext) : Prop :=
  ∀ conn, (ctx.alpnProtocolsData conn).isSome → ctx.selectCallback

theorem AlpnContext.Installed.sslConfigureAlpn {ctx : AlpnContext} (installed : ctx.Installed)
    (call : ConfigureAlpn) : (ctx.sslConfigureAlpn call).2.Installed := by
  intro conn
  rw [AlpnContext.sslConfigureAlpn_snd]
  split_ifs with server readable
  · simp [readable]
  · by_cases here : conn = call.conn
    · subst here; simp
    · simpa [Function.update_noteq here] using fun held => Or.inl (installed conn held)
  · exact installed conn

theorem AlpnContext.Installed.run {ctx : AlpnContext} (installed : ctx.Installed) (calls : List ConfigureAlpn) :
    (ctx.run calls).Installed := by
  induction calls generalizing ctx with
  | nil => exact installed
  | cons call calls ih => exact ih (installed.sslConfigureAlpn call)

theorem AlpnContext.run_congr (conn : Nat) {ctx ctx' : AlpnContext}
    (same : ctx.alpnProtocolsData conn = ctx'.alpnProtocolsData conn) (calls : List ConfigureAlpn) :
    (ctx.run calls).alpnProtocolsData conn = (ctx'.run calls).alpnProtocolsData conn := by
  induction calls generalizing ctx ctx' with
  | nil => exact same
  | cons call calls ih => exact ih (AlpnContext.sslConfigureAlpn_congr conn call same)

/-- A connection's list after a run depends only on the calls made on it. -/
theorem AlpnContext.run_filter (conn : Nat) (ctx : AlpnContext) (calls : List ConfigureAlpn) :
    (ctx.run calls).alpnProtocolsData conn =
      (ctx.run (calls.filter (·.conn == conn))).alpnProtocolsData conn := by
  induction calls generalizing ctx with
  | nil => rfl
  | cons call calls ih =>
      by_cases own : call.conn = conn
      · rw [List.filter_cons_of_pos (by simpa using own)]
        exact ih _
      · rw [List.filter_cons_of_neg (by simpa using own)]
        exact (ih _).trans (AlpnContext.run_congr conn (AlpnContext.sslConfigureAlpn_other conn own) _)

/-- However the connections made from one context are configured, what a
connection answers a client depends only on the calls made on that connection. -/
theorem alpn_answer_per_connection (calls : List ConfigureAlpn) (conn : Nat) (input : List UInt8) :
    (AlpnContext.initial.run calls).selected conn input =
      (AlpnContext.initial.run (calls.filter (·.conn == conn))).selected conn input := by
  have installed : AlpnContext.initial.Installed := fun _ held => by simp [AlpnContext.initial] at held
  have same := AlpnContext.run_filter conn AlpnContext.initial calls
  unfold AlpnContext.selected
  cases data : (AlpnContext.initial.run calls).alpnProtocolsData conn with
  | none => rw [← same, data]; split_ifs <;> rfl
  | some protocols =>
      rw [← same, data, if_pos (installed.run calls conn (by simp [data])),
        if_pos (installed.run _ conn (by simp [← same, data]))]

end Conscrypt.Ssl
