import SynchronizerL1.Etherman.NewClient

/-!
The signing authorizations of `etherman.Client`, written by `AddOrReplaceAuth` and
`LoadAuthFromKeyStore` and read by `SignTx`.
-/

namespace SynchronizerL1.Etherman

/-- A `keystore.Key`, by its private key. -/
structure Key where
  PrivateKey : Nat

/-- What the key store functions read: the file at a cleaned path, and go-ethereum's key
decryption and keyed transactor. -/
structure KeyStore where
  /-- `os.ReadFile(filepath.Clean(path))` -/
  ReadFile : String → Except Error (List UInt8)
  DecryptKey : List UInt8 → String → Except Error Key
  NewKeyedTransactorWithChainID : Nat → Nat → Except Error TransactOpts

/-- `newKeyFromKeystore`: no key, and no file read, for an empty path and password. -/
def newKeyFromKeystore (keyStore : KeyStore) (path password : String) : Except Error (Option Key) :=
  if path = "" ∧ password = "" then .ok none
  else do
    let keystoreEncrypted ← keyStore.ReadFile path
    let key ← keyStore.DecryptKey keystoreEncrypted password
    pure (some key)

/-- `newAuthFromKeystore`: the zero `TransactOpts` when there is no key. -/
def newAuthFromKeystore (keyStore : KeyStore) (path password : String) (chainID : U64) :
    Except Error TransactOpts := do
  match ← newKeyFromKeystore keyStore path password with
  | none => pure {}
  | some key => keyStore.NewKeyedTransactorWithChainID key.PrivateKey chainID.toNat

/-- How `SignTx` ends when it returns no transaction: an error, or the panic of calling a nil
signer. -/
inductive SignFailure where
  | error (cause : ClientError)
  | panic (reason : RuntimePanic)
  deriving DecidableEq, Repr

/-- The signing step of `SignTx`: `auth.Signer(auth.From, tx)`; a nil signer panics when called. -/
def TransactOpts.sign (auth : TransactOpts) (tx : Transaction) : Except SignFailure Transaction :=
  match auth.Signer with
  | none => .error (.panic .nilPointerDereference)
  | some signer => (signer auth.From tx).mapError (.error ∘ .call)

namespace FullClient

variable (etherMan : FullClient)

/-- `AddOrReplaceAuth`: the authorization is stored under its sender, replacing the one there; the
error it returns is always nil. -/
def addOrReplaceAuth (auth : TransactOpts) : FullClient :=
  { etherMan with auth := Function.update etherMan.auth auth.From (some auth) }

/-- `LoadAuthFromKeyStore`: the authorization built from the key store file, for the configured
chain id, is stored as `AddOrReplaceAuth` stores one (`etherMan.auth[auth.From] = auth`) and
returned; on an error the client is unchanged. -/
def loadAuthFromKeyStore (keyStore : KeyStore) (path password : String) :
    Except Error TransactOpts × FullClient :=
  match newAuthFromKeystore keyStore path password etherMan.L1ChainID with
  | .ok auth => (.ok auth, etherMan.addOrReplaceAuth auth)
  | .error err => (.error err, etherMan)

/-- `getAuthByAddress`. -/
def getAuthByAddress (addr : Address) : Except ClientError TransactOpts :=
  match etherMan.auth addr with
  | some auth => .ok auth
  | none => .error .ErrNotFound

/-- `SignTx`. The only error `getAuthByAddress` returns is `ErrNotFound`, the one `SignTx` tests
for (`getAuthByAddress_error`). -/
def signTx (sender : Address) (tx : Transaction) : Except SignFailure Transaction :=
  match etherMan.getAuthByAddress sender with
  | .error _ => .error (.error .ErrPrivateKeyNotFound)
  | .ok auth => auth.sign tx

theorem getAuthByAddress_error {addr : Address} {cause : ClientError}
    (failed : etherMan.getAuthByAddress addr = .error cause) : cause = .ErrNotFound := by
  unfold getAuthByAddress at failed
  split at failed <;> cases failed
  rfl

/-- `SignTx` signs with the authorization under the sender, and fails without one. -/
theorem signTx_eq (sender : Address) (tx : Transaction) :
    etherMan.signTx sender tx =
      match etherMan.auth sender with
      | some auth => auth.sign tx
      | none => .error (.error .ErrPrivateKeyNotFound) := by
  unfold signTx getAuthByAddress
  cases etherMan.auth sender <;> rfl

@[simp] theorem L1ChainID_addOrReplaceAuth (auth : TransactOpts) :
    (etherMan.addOrReplaceAuth auth).L1ChainID = etherMan.L1ChainID := rfl

theorem auth_addOrReplaceAuth (auth : TransactOpts) (addr : Address) :
    (etherMan.addOrReplaceAuth auth).auth addr = if auth.From = addr then some auth else etherMan.auth addr := by
  by_cases same : auth.From = addr
  · subst same
    simp [addOrReplaceAuth]
  · simp [addOrReplaceAuth, Function.update_noteq (Ne.symm same), same]

end FullClient

/-- A write to the authorizations: `AddOrReplaceAuth` or `LoadAuthFromKeyStore`. -/
inductive AuthWrite where
  | add (auth : TransactOpts)
  | load (path password : String)

/-- The authorizations a write stores: the one added, or the one a load builds when it succeeds. -/
def AuthWrite.stored (keyStore : KeyStore) (chainID : U64) : AuthWrite → List TransactOpts
  | .add auth => [auth]
  | .load path password => (newAuthFromKeystore keyStore path password chainID).toOption.toList

/-- One write, with the key store the loads read. -/
def applyAuthWrite (keyStore : KeyStore) (etherMan : FullClient) : AuthWrite → FullClient
  | .add auth => etherMan.addOrReplaceAuth auth
  | .load path password => (etherMan.loadAuthFromKeyStore keyStore path password).2

/-- A run of writes, in order. -/
def runAuthWrites (keyStore : KeyStore) (etherMan : FullClient) (writes : List AuthWrite) : FullClient :=
  writes.foldl (applyAuthWrite keyStore) etherMan

/-- The authorizations a run of writes stores, in order. -/
def storedAuths (keyStore : KeyStore) (chainID : U64) (writes : List AuthWrite) : List TransactOpts :=
  writes.flatMap (AuthWrite.stored keyStore chainID)

section Run

variable (keyStore : KeyStore)

theorem L1ChainID_applyAuthWrite (etherMan : FullClient) (write : AuthWrite) :
    (applyAuthWrite keyStore etherMan write).L1ChainID = etherMan.L1ChainID := by
  cases write with
  | add auth => rfl
  | load path password =>
      simp only [applyAuthWrite, FullClient.loadAuthFromKeyStore]
      split <;> rfl

/-- One write stores what it stores under each sender, and leaves the other addresses alone. -/
theorem auth_applyAuthWrite (etherMan : FullClient) (write : AuthWrite) (addr : Address) :
    (applyAuthWrite keyStore etherMan write).auth addr =
      ((write.stored keyStore etherMan.L1ChainID).filter (·.From = addr)).getLast?.or (etherMan.auth addr) := by
  cases write with
  | add auth =>
      rw [applyAuthWrite, FullClient.auth_addOrReplaceAuth]
      by_cases same : auth.From = addr <;> simp [AuthWrite.stored, same]
  | load path password =>
      simp only [applyAuthWrite, FullClient.loadAuthFromKeyStore, AuthWrite.stored]
      split
      · next auth built =>
          rw [FullClient.auth_addOrReplaceAuth, built]
          by_cases same : auth.From = addr <;> simp [Except.toOption, same]
      · next err failed => simp [failed, Except.toOption]

theorem L1ChainID_runAuthWrites (etherMan : FullClient) (writes : List AuthWrite) :
    (runAuthWrites keyStore etherMan writes).L1ChainID = etherMan.L1ChainID := by
  induction writes generalizing etherMan with
  | nil => rfl
  | cons write rest inductionHypothesis =>
      rw [runAuthWrites, List.foldl_cons, ← runAuthWrites, inductionHypothesis, L1ChainID_applyAuthWrite]

/-- Last write wins: after any run of writes the authorization under an address is the last one
the run stored for that address, or the one there before when the run stored none for it. -/
theorem auth_runAuthWrites (etherMan : FullClient) (writes : List AuthWrite) (addr : Address) :
    (runAuthWrites keyStore etherMan writes).auth addr =
      ((storedAuths keyStore etherMan.L1ChainID writes).filter (·.From = addr)).getLast?.or (etherMan.auth addr) := by
  induction writes using List.reverseRecOn with
  | nil => rfl
  | append_singleton front write inductionHypothesis =>
      rw [runAuthWrites, List.foldl_append, List.foldl_cons, List.foldl_nil, ← runAuthWrites,
        auth_applyAuthWrite, inductionHypothesis, L1ChainID_runAuthWrites]
      simp only [storedAuths, List.flatMap_append, List.flatMap_singleton, List.filter_append,
        List.getLast?_append, Option.or_assoc]

/-- `SignTx` after any run of writes: it signs with the last authorization the run stored for the
sender, and answers as before the run when the run stored none for it. -/
theorem signTx_runAuthWrites (etherMan : FullClient) (writes : List AuthWrite) (sender : Address)
    (tx : Transaction) :
    (runAuthWrites keyStore etherMan writes).signTx sender tx =
      match ((storedAuths keyStore etherMan.L1ChainID writes).filter (·.From = sender)).getLast? with
      | some auth => auth.sign tx
      | none => etherMan.signTx sender tx := by
  rw [FullClient.signTx_eq, auth_runAuthWrites, FullClient.signTx_eq]
  cases ((storedAuths keyStore etherMan.L1ChainID writes).filter (·.From = sender)).getLast? <;> rfl

/-- An empty path and password read no file: the load succeeds with the zero authorization and
stores it under the zero address, and a later `SignTx` from the zero address calls its nil signer
and panics. -/
theorem loadAuthFromKeyStore_empty (etherMan : FullClient) (tx : Transaction) :
    etherMan.loadAuthFromKeyStore keyStore "" "" = (.ok {}, etherMan.addOrReplaceAuth {}) ∧
      (etherMan.addOrReplaceAuth {}).signTx 0 tx = .error (.panic .nilPointerDereference) := by
  constructor
  · rfl
  · rw [FullClient.signTx_eq, FullClient.auth_addOrReplaceAuth, if_pos rfl]
    rfl

end Run

end SynchronizerL1.Etherman
