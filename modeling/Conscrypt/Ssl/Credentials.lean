import Mathlib.Data.List.Forall2
import Mathlib.Data.List.ReduceOption
import Conscrypt.Engine.Errors

/-!
# Installing the local certificate and the client CA list

`NativeCrypto_SSL_use_certificate` installs the local certificate chain with
one engine call per certificate: `SSL_use_certificate` for the leaf, then
`SSL_add1_chain_cert` for each further certificate. When a chain certificate is
null or refused it raises and clears the SSL, but what the earlier calls
installed stays. `NativeCrypto_SSL_set_client_CA_list` parses every principal
into a stack of its own first and hands the stack to the engine once, after the
loop: on any failure the client CA list is left as it was.
-/

set_option autoImplicit false

/-!
## The two installers
-/

/-! A certificate is an opaque reference, none for a zero reference; a principal
is the `byte[]` of an X.500 name, none for a null element. The engine's answers
are parameters: whether it accepts a certificate, and the name `d2i_X509_NAME`
parses from a principal's bytes. A refused call changes nothing. The allocations
(`sk_X509_NAME_new_null`, `sk_X509_NAME_push`, `ScopedByteArrayRO`,
`ScopedLongArrayRO`) are taken to succeed. -/

namespace Conscrypt.Ssl

/-- A change to the SSL's configuration that the engine accepted. -/
inductive ConfigCall (Cert Name : Type) where
  /-- `SSL_use_certificate`: the local leaf. -/
  | useCertificate (cert : Cert)
  /-- `SSL_add1_chain_cert`: one more certificate after the chain installed so far. -/
  | addChainCert (cert : Cert)
  /-- `SSL_set_client_CA_list`: the whole client CA list. -/
  | setClientCaList (names : List Name)
  /-- `safeSslClear`. -/
  | clear
  deriving DecidableEq, Repr

/-- What a configuring entry point leaves: the configuration changes it made, in
order, and the exception it left pending. -/
structure Configured (Cert Name : Type) where
  calls : List (ConfigCall Cert Name)
  exception : Option JavaException
  deriving DecidableEq, Repr

section

variable {Cert Name : Type}

/-- `throwSSLExceptionWithSslErrors(env, ssl, SSL_ERROR_NONE, message)` followed by
`safeSslClear(ssl)`. -/
def failAndClear (message : String) : Configured Cert Name :=
  ⟨[.clear], some (.sslErrors message .errorNone)⟩

/-- The loop of `NativeCrypto_SSL_use_certificate` over `certificates[1..]`: stop at
the first certificate that is null or that `SSL_add1_chain_cert` refuses. -/
def addChainCerts (addChainCertOk : Cert → Bool) : List (Option Cert) → Configured Cert Name
  | [] => ⟨[], none⟩
  | none :: _ => failAndClear "Error parsing certificate"
  | some cert :: rest =>
      if addChainCertOk cert then
        let added := addChainCerts addChainCertOk rest
        ⟨.addChainCert cert :: added.calls, added.exception⟩
      else failAndClear "Error parsing certificate"

/-- `NativeCrypto_SSL_use_certificate`; `ssl` is false for a null `SSL*`, and
`certificates` is none for a null array. -/
def sslUseCertificate (useCertificateOk addChainCertOk : Cert → Bool) (ssl : Bool)
    (certificates : Option (List (Option Cert))) : Configured Cert Name :=
  if !ssl then ⟨[], some (.nullPointer "ssl == null")⟩
  else
    match certificates with
    | none => ⟨[], some (.nullPointer "certificates == null")⟩
    | some [] => ⟨[], some (.illegalArgument "certificates.length == 0")⟩
    | some (none :: _) => ⟨[], some (.outOfMemory "Unable to allocate local certificate chain")⟩
    | some (some serverCert :: chain) =>
        if useCertificateOk serverCert then
          let added := addChainCerts addChainCertOk chain
          ⟨.useCertificate serverCert :: added.calls, added.exception⟩
        else failAndClear "Error setting certificate"

/-- The loop of `NativeCrypto_SSL_set_client_CA_list`: parse each principal and push
its name on `principalsStack`, or stop with what the failure leaves. -/
def pushPrincipals (d2iX509Name : List UInt8 → Option Name) :
    List Name → List (Option (List UInt8)) → Except (Configured Cert Name) (List Name)
  | principalsStack, [] => .ok principalsStack
  | _, none :: _ => .error ⟨[], some (.nullPointer "principals element == null")⟩
  | principalsStack, some principal :: rest =>
      match d2iX509Name principal with
      | none => .error (failAndClear "Error parsing principal")
      | some name => pushPrincipals d2iX509Name (principalsStack ++ [name]) rest

/-- `NativeCrypto_SSL_set_client_CA_list`; `principals` is none for a null array. -/
def sslSetClientCaList (d2iX509Name : List UInt8 → Option Name) (ssl : Bool)
    (principals : Option (List (Option (List UInt8)))) : Configured Cert Name :=
  if !ssl then ⟨[], some (.nullPointer "ssl == null")⟩
  else
    match principals with
    | none => ⟨[], some (.nullPointer "principals == null")⟩
    | some principals =>
        if principals.length = 0 then ⟨[], some (.illegalArgument "principals.length == 0")⟩
        else
          match pushPrincipals d2iX509Name [] principals with
          | .error failed => failed
          | .ok principalsStack => ⟨[.setClientCaList principalsStack], none⟩

end

end Conscrypt.Ssl

/-!
## All or nothing, and one at a time
-/

/-! The CA list loop only collects names, so a run either reaches the single
`SSL_set_client_CA_list` with every principal parsed or ends with at most a
`safeSslClear`. The chain loop installs as it goes: its changes are the
certificates before the first failure. -/

namespace Conscrypt.Ssl

section

variable {Cert Name : Type}

/-- A principal that `d2i_X509_NAME` parses to `name`. -/
def Parses (d2iX509Name : List UInt8 → Option Name) (principal : Option (List UInt8)) (name : Name) : Prop :=
  principal.bind d2iX509Name = some name

/-- A failed run changes at most by clearing the SSL, and leaves an exception. -/
def Configured.OnlyCleared (configured : Configured Cert Name) : Prop :=
  (∀ call ∈ configured.calls, call = .clear) ∧ configured.exception.isSome

theorem failAndClear_onlyCleared (message : String) :
    (failAndClear message : Configured Cert Name).OnlyCleared :=
  ⟨by simp [failAndClear], rfl⟩

theorem pushPrincipals_eq_ok {d2iX509Name : List UInt8 → Option Name} {principals : List (Option (List UInt8))}
    {principalsStack names : List Name} :
    (pushPrincipals d2iX509Name principalsStack principals : Except (Configured Cert Name) (List Name)) = .ok names ↔
      ∃ parsed, List.Forall₂ (Parses d2iX509Name) principals parsed ∧ names = principalsStack ++ parsed := by
  induction principals generalizing principalsStack with
  | nil => simp [pushPrincipals, eq_comm]
  | cons principal rest ih =>
      rcases principal with _ | principal
      · simp [pushPrincipals, Parses, List.forall₂_cons_left_iff]
      · cases parsed : d2iX509Name principal with
        | none => simp [pushPrincipals, Parses, parsed, List.forall₂_cons_left_iff]
        | some name =>
            simp only [pushPrincipals, parsed, ih]
            constructor
            · rintro ⟨tail, parsedTail, rfl⟩
              exact ⟨name :: tail, .cons (by simp [Parses, parsed]) parsedTail, by simp⟩
            · rintro ⟨_ | ⟨head, tail⟩, parsedAll, rfl⟩
              · cases parsedAll
              · obtain ⟨first, parsedTail⟩ := List.forall₂_cons.mp parsedAll
                have named : name = head := by simpa [Parses, parsed] using first
                exact ⟨tail, parsedTail, by simp [named]⟩

theorem pushPrincipals_error {d2iX509Name : List UInt8 → Option Name} {principals : List (Option (List UInt8))}
    {principalsStack : List Name} {failed : Configured Cert Name}
    (stopped : pushPrincipals d2iX509Name principalsStack principals = .error failed) : failed.OnlyCleared := by
  induction principals generalizing principalsStack with
  | nil => cases stopped
  | cons principal rest ih =>
      rcases principal with _ | principal
      · cases stopped; exact ⟨by simp, rfl⟩
      · simp only [pushPrincipals] at stopped
        split at stopped
        · cases stopped; exact failAndClear_onlyCleared _
        · exact ih stopped

/-- Whether the chain loop goes past a certificate. -/
def chainCertAdded (addChainCertOk : Cert → Bool) : Option Cert → Bool
  | none => false
  | some cert => addChainCertOk cert

/-- The changes and the exception of the chain loop, in closed form. -/
theorem addChainCerts_eq (addChainCertOk : Cert → Bool) (chain : List (Option Cert)) :
    (addChainCerts addChainCertOk chain : Configured Cert Name) =
      if chain.all (chainCertAdded addChainCertOk) then
        ⟨(chain.reduceOption).map .addChainCert, none⟩
      else
        ⟨((chain.takeWhile (chainCertAdded addChainCertOk)).reduceOption).map .addChainCert ++ [.clear],
          some (.sslErrors "Error parsing certificate" .errorNone)⟩ := by
  induction chain with
  | nil => rfl
  | cons cert rest ih =>
      rcases cert with _ | cert
      · rfl
      · by_cases added : addChainCertOk cert
        · rw [addChainCerts, if_pos added, ih]
          split <;> simp [chainCertAdded, added, *]
        · simp [addChainCerts, added, chainCertAdded, failAndClear]

theorem sslSetClientCaList_of_ne_nil {d2iX509Name : List UInt8 → Option Name} {principals : List (Option (List UInt8))}
    (nonEmpty : principals ≠ []) :
    (sslSetClientCaList d2iX509Name true (some principals) : Configured Cert Name) =
      match pushPrincipals d2iX509Name [] principals with
      | .error failed => failed
      | .ok principalsStack => ⟨[.setClientCaList principalsStack], none⟩ := by
  simp [sslSetClientCaList, nonEmpty]

/-- `SSL_set_client_CA_list` installs a client CA list exactly when every principal is
there and parses, and then installs the parsed names in the order of the principals;
every other run leaves an exception and changes the SSL at most by clearing it.
`SSL_use_certificate` with a leaf the engine accepts installs it at once and then
the chain certificates one at a time: when one of them is null or refused, the call
raises after the leaf and the certificates before the failing one were installed. -/
theorem ca_list_atomic_chain_incremental :
    (∀ (d2iX509Name : List UInt8 → Option Name) (principals : List (Option (List UInt8))) (names : List Name),
      (sslSetClientCaList d2iX509Name true (some principals) : Configured Cert Name) =
          ⟨[.setClientCaList names], none⟩ ↔
        principals ≠ [] ∧ List.Forall₂ (Parses d2iX509Name) principals names) ∧
    (∀ (d2iX509Name : List UInt8 → Option Name) (ssl : Bool) (principals : Option (List (Option (List UInt8)))),
      (sslSetClientCaList d2iX509Name ssl principals : Configured Cert Name).OnlyCleared ∨
        ∃ names, (sslSetClientCaList d2iX509Name ssl principals : Configured Cert Name) =
          ⟨[.setClientCaList names], none⟩) ∧
    ∀ (useCertificateOk addChainCertOk : Cert → Bool) (leaf : Cert) (chain : List (Option Cert)),
      useCertificateOk leaf = true →
      (sslUseCertificate useCertificateOk addChainCertOk true (some (some leaf :: chain)) : Configured Cert Name) =
        if chain.all (chainCertAdded addChainCertOk) then
          ⟨.useCertificate leaf :: (chain.reduceOption).map .addChainCert, none⟩
        else
          ⟨.useCertificate leaf ::
              ((chain.takeWhile (chainCertAdded addChainCertOk)).reduceOption).map .addChainCert ++ [.clear],
            some (.sslErrors "Error parsing certificate" .errorNone)⟩ := by
  refine ⟨fun d2iX509Name principals names => ⟨fun installed => ?_, fun ⟨nonEmpty, parsed⟩ => ?_⟩,
    fun d2iX509Name ssl principals => ?_, fun useCertificateOk addChainCertOk leaf chain accepted => ?_⟩
  · by_cases nonEmpty : principals = []
    · subst nonEmpty; cases installed
    · rw [sslSetClientCaList_of_ne_nil nonEmpty] at installed
      split at installed
      · rename_i stopped
        obtain ⟨onlyCleared, -⟩ := pushPrincipals_error stopped
        cases onlyCleared _ (by rw [installed]; exact List.mem_singleton_self _)
      · rename_i pushed
        obtain ⟨parsed, allParsed, rfl⟩ := pushPrincipals_eq_ok.mp pushed
        cases installed
        exact ⟨nonEmpty, allParsed⟩
  · rw [sslSetClientCaList_of_ne_nil nonEmpty, pushPrincipals_eq_ok.mpr ⟨names, parsed, rfl⟩]
    rfl
  · cases ssl
    · exact .inl ⟨by simp [sslSetClientCaList], rfl⟩
    · rcases principals with _ | principals
      · exact .inl ⟨by simp [sslSetClientCaList], rfl⟩
      · by_cases nonEmpty : principals = []
        · subst nonEmpty; exact .inl ⟨by simp [sslSetClientCaList], rfl⟩
        · rw [sslSetClientCaList_of_ne_nil nonEmpty]
          split
          · exact .inl (pushPrincipals_error ‹_›)
          · exact .inr ⟨_, rfl⟩
  · simp only [sslUseCertificate, Bool.not_true, Bool.false_eq_true, ↓reduceIte, accepted, addChainCerts_eq]
    split <;> rfl

example : (sslUseCertificate (fun _ => true) (fun _ => true) true (some [some 1, some 2, none]) :
    Configured Nat Nat) =
      ⟨[.useCertificate 1, .addChainCert 2, .clear], some (.sslErrors "Error parsing certificate" .errorNone)⟩ := by
  decide

end

end Conscrypt.Ssl
