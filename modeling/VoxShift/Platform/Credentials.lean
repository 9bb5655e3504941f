import Mathlib.Tactic.SplitIfs
import VoxShift.Core.Token

/-!
# The credential store

`voxshift-platform-windows`'s `credentials.rs`: `win::load` and `win::save`.

## The model

* The credential manager keeps a blob or nothing (`Vault`). `CredWriteW` may fail; if
  it does not, the vault holds the first `CredentialBlobSize` bytes of what it is
  given, and `CredReadW` returns them.
* `serde_json` is a parameter (`SerdeJson`).
* `expires_at_unix` is an `i64`, the blob's size a `u32`; `as` wraps.
* An addition to `UNIX_EPOCH` that overflows panics.

## What is proved

* `load_of_fromSlice` — what a blob that is parsed is loaded as.
* `stored_credentials_round_trip_iff` — a token set that has been saved is loaded again,
  and does not look fresher, exactly if the size of its JSON fits in a `u32`.
* `long_token_is_lost` — a saved token set whose access token has 2³² characters is
  loaded as an error.
-/

namespace VoxShift.Platform

open VoxShift.Core

/-! ### `serde_json` -/

/-- `CredentialBlobV1`. -/
structure CredentialBlobV1 where
  schemaVersion : UInt8
  accessToken : String
  refreshToken : String
  expiresAtUnix : Int64
  scopes : List String
  deriving DecidableEq

/-- The two functions of `serde_json` that are used, with the texts of their errors. -/
structure SerdeJson where
  toVec : CredentialBlobV1 → Except String (List UInt8)
  fromSlice : List UInt8 → Except String CredentialBlobV1

/-- What `serde_json` does with one blob: its text, which is a JSON object, is read back as the
blob, and is not read if its end is missing. -/
structure SerdeJson.FaithfulOn (serde : SerdeJson) (blob : CredentialBlobV1) : Prop where
  roundTrip : ∀ json, serde.toVec blob = .ok json → serde.fromSlice json = .ok blob
  whole : ∀ json, serde.toVec blob = .ok json → ∀ n < json.length,
    ∃ err, serde.fromSlice (json.take n) = .error err

/-! ### The credential manager -/

/-- The credential under `CREDENTIAL_TARGET`, if there is one. -/
abbrev Vault := Option (List UInt8)

/-- An error code of the credential manager. -/
inductive Win32Error where
  /-- `ERROR_NOT_FOUND`. -/
  | notFound
  | other (message : String)
  deriving DecidableEq, Repr

/-- `CREDENTIALW`, as far as its blob goes. -/
structure CREDENTIALW where
  credentialBlobSize : UInt32
  credentialBlob : List UInt8

/-- `CredWriteW`, with the error it fails with, if it does. -/
def credWriteW (fault : Option String) (credential : CREDENTIALW) (vault : Vault) :
    Vault × Except String Unit :=
  match fault with
  | some err => (vault, .error err)
  | none =>
    (some (credential.credentialBlob.take credential.credentialBlobSize.toNat), .ok ())

/-- `CredReadW`. -/
def credReadW (vault : Vault) : Except Win32Error (List UInt8) :=
  match vault with
  | some blob => .ok blob
  | none => .error .notFound

/-! ### `load` and `save` -/

/-- `UNIX_EPOCH`, in ticks since 1601. -/
def UNIX_EPOCH : SystemTime := 116444736000000000

/-- `store_error`: the message. -/
def storeError (context detail : String) : String := context ++ ": " ++ detail

/-- `load`, from the result of `CredReadW` on; `none` where the addition panics. -/
def load (serde : SerdeJson) (read : Except Win32Error (List UInt8)) :
    Option (Except String (Option StoredTokenSet)) :=
  match read with
  | .ok slice =>
    match serde.fromSlice slice with
    | .error e => some (.error (storeError "failed to parse stored credential blob" e))
    | .ok blob =>
      (SystemTime.checkedAdd UNIX_EPOCH
        (Duration.fromSecs (max blob.expiresAtUnix 0).toUInt64.toNat)).map fun expiresAt =>
        .ok (some
          { accessToken := blob.accessToken
            refreshToken := blob.refreshToken
            expiresAt := expiresAt
            scopes := blob.scopes })
  | .error .notFound => some (.ok none)
  | .error (.other err) => some (.error (storeError "CredReadW failed" err))

/-- `expires_at_unix` in `save`. -/
def expiresAtUnix (tokens : StoredTokenSet) : Int64 :=
  ((SystemTime.durationSince tokens.expiresAt UNIX_EPOCH).map fun d =>
    (UInt64.ofNat (d / 1000000000)).toInt64).getD 0

/-- The blob in `save`. -/
def blobOf (tokens : StoredTokenSet) : CredentialBlobV1 where
  schemaVersion := 1
  accessToken := tokens.accessToken
  refreshToken := tokens.refreshToken
  expiresAtUnix := expiresAtUnix tokens
  scopes := tokens.scopes

/-- `save`, with the error `CredWriteW` fails with, if it does. -/
def save (serde : SerdeJson) (fault : Option String) (vault : Vault) (tokens : StoredTokenSet) :
    Vault × Except String Unit :=
  match serde.toVec (blobOf tokens) with
  | .error e => (vault, .error (storeError "failed to serialize credential blob" e))
  | .ok json =>
    let r := credWriteW fault ⟨UInt32.ofNat json.length, json⟩ vault
    (r.1, r.2.mapError (storeError "CredWriteW failed"))

/-! ### Times -/

/-- The last second that `load` can represent. -/
def lastSecond : ℤ := 910692730085

theorem toNat_max_zero (e : Int64) : (max e 0).toUInt64.toNat = e.toInt.toNat := by
  have hmax : max e 0 = if e ≤ 0 then 0 else e := rfl
  rw [hmax]
  split_ifs with hle
  · have hzero : e.toNatClampNeg = 0 := Int64.toNatClampNeg_eq_zero_iff.mpr hle
    exact hzero.symm
  · exact Int64.toNat_toUInt64_of_le (Int64.le_of_lt (Int64.not_le.mp hle))

theorem checkedAdd_UNIX_EPOCH (secs : ℕ) :
    SystemTime.checkedAdd UNIX_EPOCH (Duration.fromSecs secs) =
      if (secs : ℤ) ≤ lastSecond then some (UNIX_EPOCH + 10000000 * secs) else none := by
  simp only [SystemTime.checkedAdd, SystemTime.ticks_fromSecs, SystemTime.inRange, UNIX_EPOCH,
    lastSecond, ← Bool.decide_and]
  congr 1
  simp only [decide_eq_true_eq, eq_iff_iff]
  omega

/-- **What is loaded** from a blob that is parsed. -/
theorem load_of_fromSlice {serde : SerdeJson} {slice : List UInt8} {blob : CredentialBlobV1}
    (h : serde.fromSlice slice = .ok blob) :
    load serde (.ok slice) =
      if blob.expiresAtUnix.toInt ≤ lastSecond then
        some (.ok (some ⟨blob.accessToken, blob.refreshToken,
          UNIX_EPOCH + 10000000 * blob.expiresAtUnix.toInt.toNat, blob.scopes⟩))
      else none := by
  have hclamp : (blob.expiresAtUnix.toInt.toNat : ℤ) ≤ lastSecond ↔
      blob.expiresAtUnix.toInt ≤ lastSecond := by
    unfold lastSecond
    omega
  simp only [load, h, toNat_max_zero, checkedAdd_UNIX_EPOCH, hclamp]
  split_ifs <;> rfl

theorem toNat_sub_UNIX_EPOCH_le {t : ℤ} (hrange : SystemTime.inRange t = true) :
    (t - UNIX_EPOCH).toNat ≤ 9106927300854775807 := by
  simp only [SystemTime.inRange, UNIX_EPOCH, decide_eq_true_eq] at hrange ⊢
  omega

/-- The second that `save` writes: the clamp, the rounding and the cast. -/
theorem toInt_expiresAtUnix {tokens : StoredTokenSet}
    (hrange : SystemTime.inRange tokens.expiresAt = true) :
    (expiresAtUnix tokens).toInt = ((tokens.expiresAt - UNIX_EPOCH).toNat / 10000000 : ℕ) := by
  have hle := toNat_sub_UNIX_EPOCH_le hrange
  unfold expiresAtUnix SystemTime.durationSince
  split_ifs with hepoch
  · have hsecs : 100 * (tokens.expiresAt - UNIX_EPOCH).toNat / 1000000000 =
        (tokens.expiresAt - UNIX_EPOCH).toNat / 10000000 := by omega
    simp only [Option.map_some, Option.getD_some, UInt64.toInt64_ofNat', hsecs]
    exact Int64.toInt_ofNat_of_lt (by omega)
  · have hzero : (tokens.expiresAt - UNIX_EPOCH).toNat = 0 :=
      Int.toNat_eq_zero.mpr (Int.sub_nonpos_of_le (Int.le_of_lt (Int.not_le.mp hepoch)))
    rw [hzero]
    rfl

/-- What a token set is loaded as after it has been saved: its expiry is rounded down to a second,
and is not before 1970. -/
def reloaded (tokens : StoredTokenSet) : StoredTokenSet :=
  { tokens with
    expiresAt :=
      UNIX_EPOCH + 10000000 * ((tokens.expiresAt - UNIX_EPOCH).toNat / 10000000 : ℕ) }

/-- How far a time that is clamped to `epoch` and rounded down to a second is from the time. -/
theorem rounded_bounds (t epoch : ℤ) (hepoch : SystemTime.inRange epoch = true) :
    let rounded := epoch + 10000000 * ((t - epoch).toNat / 10000000 : ℕ)
    (epoch ≤ t → rounded ≤ t ∧ t - rounded < 10000000) ∧ (t ≤ epoch → rounded = epoch) ∧
      (rounded - epoch).toNat / 10000000 = (t - epoch).toNat / 10000000 ∧
      (SystemTime.inRange t = true → SystemTime.inRange rounded = true) := by
  simp only [SystemTime.inRange, decide_eq_true_eq] at hepoch ⊢
  omega

/-- The blob does not change when the token set has been loaded from it. -/
theorem blobOf_reloaded {tokens : StoredTokenSet}
    (hrange : SystemTime.inRange tokens.expiresAt = true) :
    blobOf (reloaded tokens) = blobOf tokens := by
  obtain ⟨-, -, hsecs, hrange'⟩ := rounded_bounds tokens.expiresAt UNIX_EPOCH rfl
  have hsame : expiresAtUnix (reloaded tokens) = expiresAtUnix tokens := by
    apply Int64.toInt_inj.mp
    have hreloaded : (expiresAtUnix (reloaded tokens)).toInt =
        (((reloaded tokens).expiresAt - UNIX_EPOCH).toNat / 10000000 : ℕ) :=
      toInt_expiresAtUnix (hrange' hrange)
    rw [toInt_expiresAtUnix hrange, hreloaded]
    exact congrArg Nat.cast hsecs
  unfold blobOf
  rw [hsame]
  rfl

/-! ### The round trip -/

/-- What a reloaded token set has in common with the one that was saved. -/
structure Reloaded (tokens tokens' : StoredTokenSet) : Prop where
  accessToken : tokens'.accessToken = tokens.accessToken
  refreshToken : tokens'.refreshToken = tokens.refreshToken
  scopes : tokens'.scopes = tokens.scopes
  /-- It never looks fresher. -/
  expired : ∀ margin systemNow, UNIX_EPOCH ≤ systemNow →
    tokens.isExpiredWithin systemNow margin = true → tokens'.isExpiredWithin systemNow margin = true
  /-- It expires less than a second earlier. -/
  second : UNIX_EPOCH ≤ tokens.expiresAt →
    tokens.expiresAt - tokens'.expiresAt < SystemTime.ticks (Duration.fromSecs 1)

/-- The vault holds the token set: it is loaded, and saving and loading it once more changes
nothing. -/
def RoundTrips (serde : SerdeJson) (tokens : StoredTokenSet) (vault : Vault) : Prop :=
  ∃ tokens', load serde (credReadW vault) = some (.ok (some tokens')) ∧ Reloaded tokens tokens' ∧
    ∀ fault vault', save serde fault vault tokens' = (vault', .ok ()) →
      load serde (credReadW vault') = some (.ok (some tokens'))

/-- Nothing but the expiry changes, and it does not look fresher. -/
theorem reloaded_spec {tokens : StoredTokenSet}
    (hrange : SystemTime.inRange tokens.expiresAt = true) : Reloaded tokens (reloaded tokens) := by
  obtain ⟨hafter, hbefore, -, -⟩ := rounded_bounds tokens.expiresAt UNIX_EPOCH rfl
  refine ⟨rfl, rfl, rfl, ?_, fun hepoch => (hafter hepoch).2⟩
  intro margin systemNow hnow hexpired
  rcases Int.le_total UNIX_EPOCH tokens.expiresAt with hepoch | hepoch
  · exact StoredTokenSet.isExpiredWithin_of_expiresAt_le hrange (hafter hepoch).1 hexpired
  · -- a token set from before 1970 is loaded as one that expired in 1970
    refine StoredTokenSet.isExpiredWithin_of_le ?_
    show UNIX_EPOCH + 10000000 * _ ≤ systemNow
    rw [hbefore hepoch]
    exact hnow

section Save

variable {serde : SerdeJson} {tokens : StoredTokenSet} {json : List UInt8} {fault : Option String}
  {vault vault' : Vault}

theorem vault_of_save (hjson : serde.toVec (blobOf tokens) = .ok json)
    (hsave : save serde fault vault tokens = (vault', .ok ())) :
    credReadW vault' = .ok (json.take (json.length % UInt32.size)) := by
  simp only [save, hjson, credWriteW] at hsave
  cases fault with
  | some err => cases hsave
  | none =>
    obtain rfl : some (json.take (UInt32.ofNat json.length).toNat) = vault' :=
      congrArg Prod.fst hsave
    rw [UInt32.toNat_ofNat']
    rfl

theorem load_toVec (hserde : serde.FaithfulOn (blobOf tokens))
    (hrange : SystemTime.inRange tokens.expiresAt = true)
    (hjson : serde.toVec (blobOf tokens) = .ok json) :
    load serde (.ok json) = some (.ok (some (reloaded tokens))) := by
  have hle := toNat_sub_UNIX_EPOCH_le hrange
  have hsecond : (blobOf tokens).expiresAtUnix.toInt =
      ((tokens.expiresAt - UNIX_EPOCH).toNat / 10000000 : ℕ) := toInt_expiresAtUnix hrange
  rw [load_of_fromSlice (hserde.roundTrip json hjson), hsecond, if_pos]
  · rfl
  · unfold lastSecond
    omega

theorem load_truncated (hserde : serde.FaithfulOn (blobOf tokens))
    (hjson : serde.toVec (blobOf tokens) = .ok json) (hlong : UInt32.size ≤ json.length) :
    ∃ err, load serde (.ok (json.take (json.length % UInt32.size))) = some (.error err) := by
  have hcut : json.length % UInt32.size < json.length :=
    Nat.lt_of_lt_of_le (Nat.mod_lt json.length (by decide)) hlong
  obtain ⟨err, herr⟩ := hserde.whole json hjson _ hcut
  simp only [load, herr]
  exact ⟨_, rfl⟩

/-- A vault that is not loaded from does not hold the token set. -/
theorem not_roundTrips_of_error {err : String}
    (hload : load serde (credReadW vault) = some (.error err)) :
    ¬ RoundTrips serde tokens vault := by
  rintro ⟨tokens', hload', -, -⟩
  rw [hload] at hload'
  cases hload'

/-- **The round trip, exactly.** Let a token set with any expiry that a `SystemTime` can hold be
saved, and the save succeed. The load that follows returns its tokens and its scopes with an expiry
that never makes it look fresher and is less than a second early, and a second round changes
nothing, if and only if the JSON text has fewer than 2³² bytes. -/
theorem stored_credentials_round_trip_iff (hserde : serde.FaithfulOn (blobOf tokens))
    (hrange : SystemTime.inRange tokens.expiresAt = true)
    (hsave : save serde fault vault tokens = (vault', .ok ())) :
    RoundTrips serde tokens vault' ↔
      ∀ json, serde.toVec (blobOf tokens) = .ok json → json.length < UInt32.size := by
  constructor
  · intro htrip json hjson
    by_contra hlong
    obtain ⟨err, herr⟩ := load_truncated hserde hjson (Nat.not_lt.mp hlong)
    rw [← vault_of_save hjson hsave] at herr
    exact not_roundTrips_of_error herr htrip
  · intro hshort
    cases hjson : serde.toVec (blobOf tokens) with
    | error err =>
      simp only [save, hjson] at hsave
      cases hsave
    | ok json =>
      have hwhole : json.take (json.length % UInt32.size) = json := by
        rw [Nat.mod_eq_of_lt (hshort json hjson), List.take_length]
      have hload := load_toVec hserde hrange hjson
      refine ⟨reloaded tokens, ?_, reloaded_spec hrange, ?_⟩
      · rw [vault_of_save hjson hsave, hwhole]
        exact hload
      · intro fault' vault'' hsave'
        have hjson' : serde.toVec (blobOf (reloaded tokens)) = .ok json := by
          rw [blobOf_reloaded hrange]
          exact hjson
        rw [vault_of_save hjson' hsave', hwhole]
        exact hload

end Save

/-! ### Texts -/

/-- The bytes of a text in ASCII. -/
def ascii (text : String) : List UInt8 := text.toList.map Char.toUInt8

/-- The text of a blob whose strings are in ASCII and need no escapes. -/
def compactText (blob : CredentialBlobV1) : List UInt8 :=
  ascii "\x7b\"schema_version\":" ++ ascii (toString blob.schemaVersion.toNat) ++
    ascii ",\"access_token\":\"" ++ ascii blob.accessToken ++
    ascii "\",\"refresh_token\":\"" ++ ascii blob.refreshToken ++
    ascii "\",\"expires_at_unix\":" ++ ascii (toString blob.expiresAtUnix.toInt) ++
    ascii ",\"scopes\":[" ++
    ascii (",".intercalate (blob.scopes.map fun scope => "\"" ++ scope ++ "\"")) ++
    ascii "]\x7d"

/-- `serde_json` on one blob, and on texts that are cut short. -/
def compactSerde (blob : CredentialBlobV1) : SerdeJson where
  toVec blob' := .ok (compactText blob')
  fromSlice json :=
    if json = compactText blob then .ok blob else .error "EOF while parsing a value"

theorem faithfulOn_compactSerde (blob : CredentialBlobV1) :
    (compactSerde blob).FaithfulOn blob := by
  constructor
  · intro json hjson
    obtain rfl : compactText blob = json := Except.ok.inj hjson
    simp only [compactSerde, if_true]
  · intro json hjson n hn
    obtain rfl : compactText blob = json := Except.ok.inj hjson
    have hne : (compactText blob).take n ≠ compactText blob := by
      intro heq
      have hlength := congrArg List.length heq
      rw [List.length_take, Nat.min_eq_left (Nat.le_of_lt hn)] at hlength
      exact absurd hlength (Nat.ne_of_lt hn)
    simp only [compactSerde, if_neg hne]
    exact ⟨_, rfl⟩

theorem save_compactSerde (blob : CredentialBlobV1) (vault : Vault) (tokens : StoredTokenSet) :
    (save (compactSerde blob) none vault tokens).2 = .ok () := rfl

/-- A token set that expires within a second of 2024. -/
def testTokens : StoredTokenSet :=
  ⟨"test-access-token", "test-refresh-token", 133485408001234567, ["rpc", "identify"]⟩

example : compactText (blobOf testTokens) = ascii ("\x7b\"schema_version\":1," ++
    "\"access_token\":\"test-access-token\",\"refresh_token\":\"test-refresh-token\"," ++
    "\"expires_at_unix\":1704067200,\"scopes\":[\"rpc\",\"identify\"]\x7d") := by
  decide +kernel

/-- It is saved in an empty vault, and found again. -/
theorem test_tokens_round_trip :
    let serde := compactSerde (blobOf testTokens)
    RoundTrips serde testTokens (save serde none none testTokens).1 := by
  intro serde
  have hsave : save serde none none testTokens = ((save serde none none testTokens).1, .ok ()) :=
    Prod.ext rfl (save_compactSerde _ none testTokens)
  refine (stored_credentials_round_trip_iff (faithfulOn_compactSerde _) rfl hsave).mpr ?_
  intro json hjson
  obtain rfl : compactText (blobOf testTokens) = json := Except.ok.inj hjson
  decide +kernel

/-- A token set whose access token has `n` characters. -/
def longTokens (n : ℕ) : StoredTokenSet :=
  ⟨String.ofList (List.replicate n 'a'), "rt", UNIX_EPOCH, ["rpc"]⟩

theorem le_length_longTokens (n : ℕ) : n ≤ (compactText (blobOf (longTokens n))).length := by
  have haccess : (ascii (blobOf (longTokens n)).accessToken).length = n := by
    simp [ascii, blobOf, longTokens]
  simp only [compactText, List.length_append, haccess]
  omega

/-- An access token of 2³² characters is saved, and the save succeeds; what is in the vault is the
first few bytes of the text, and the load fails. -/
theorem long_token_is_lost :
    let tokens := longTokens UInt32.size
    let serde := compactSerde (blobOf tokens)
    let r := save serde none none tokens
    r.2 = .ok () ∧ (∃ err, load serde (credReadW r.1) = some (.error err)) ∧
      ¬ RoundTrips serde tokens r.1 := by
  intro tokens serde r
  have hsave : r.2 = .ok () := save_compactSerde _ none tokens
  have hjson : serde.toVec (blobOf tokens) = .ok (compactText (blobOf tokens)) := rfl
  obtain ⟨err, herr⟩ := load_truncated (faithfulOn_compactSerde _) hjson (le_length_longTokens _)
  rw [← vault_of_save hjson (Prod.ext rfl hsave)] at herr
  exact ⟨hsave, ⟨err, herr⟩, not_roundTrips_of_error herr⟩

end VoxShift.Platform
