/-
The meishi program: compliance passports of agents, the mandates their
principals sign, and the audits oracles record.

The structures follow the program's accounts without the bumps; the nine
parameters of a mandate stand together as `MandateTerms`, which carries
the widths of their types. Every account is stored under its address.
Rent is left out: who funds an account decides nothing here.

Two things come from outside. `Finder` derives addresses at the ids of
other programs, which the program uses to check the kamiyo accounts it is
given; and the instructions of the transaction, with the position of the
running one, are what the signature check reads.
-/
import KamiyoProtocol.Meishi.KamiyoAccounts
import KamiyoProtocol.Solana.Ed25519

namespace KamiyoProtocol.Meishi

open Solana Exec Function

-- ==== accounts

/-- The seeds of the derived addresses the program computes at its own
id. -/
inductive Seed where
  | passport (agentIdentity : Pubkey)
  | mandate (passport : Pubkey) (version : Nat)
  | audit (passport : Pubkey) (nonce : Nat)
  | liability (passport counterparty : Pubkey)

/-- `Pubkey::find_program_address` at the id of another program. -/
abbrev Finder := List Bytes → Pubkey → Pubkey

variable {env : Env Seed}

inductive MeishiError where
  | unauthorized
  | invalidJurisdiction
  | invalidComplianceScore
  | mandateInPast
  | invalidMandateDuration
  | spendingLimitExceeded
  | invalidSpendingHierarchy
  | mandateAlreadyRevoked
  | mandateMismatch
  | invalidAuditType
  | ualTooLong
  | alreadySuspended
  | notSuspended
  | invalidSuspensionReason
  | liabilityBpsMismatch
  | liabilityExpired
  | invalidLiabilityCap
  | passportSuspended
  | arithmeticOverflow
  | agentIdentityInvalid
  | invalidDisputeState
  | mandateSignatureMissing
  | invalidMandateSignature
  | oracleRegistryMissing
  | oracleRegistryInvalid
  | oracleNotRegistered
  | oracleSignerMissing
  | oracleConsensusInsufficient

abbrev Outcome (α : Type) := Result MeishiError α

def maxComplianceScore : Int := 1000
def minComplianceScore : Int := -1000
def defaultComplianceScore : Int := 0
def maxMandateDuration : Int := 365 * 24 * 60 * 60
def minMandateDuration : Int := 3600
def bpsDenominator : Nat := 10000
def maxSpendingLimit : Nat := 10000000000000

def kamiyoProgramIdPrimary : Pubkey :=
  ⟨[38, 13, 117, 41, 164, 24, 35, 89, 183, 133, 48, 5, 136, 1, 101, 117,
    76, 74, 87, 239, 8, 106, 198, 5, 109, 23, 48, 251, 187, 28, 114, 149]⟩

def kamiyoProgramIdCompat : Pubkey :=
  ⟨[116, 240, 67, 46, 7, 115, 74, 110, 181, 224, 9, 120, 68, 253, 6, 11,
    96, 48, 7, 32, 6, 136, 58, 152, 207, 40, 182, 55, 171, 140, 140, 10]⟩

def kamiyoProgramIdLocal : Pubkey :=
  ⟨[83, 6, 100, 108, 6, 193, 100, 243, 242, 48, 226, 163, 89, 255, 36, 67,
    93, 208, 154, 117, 153, 58, 170, 172, 173, 12, 140, 125, 81, 167, 248,
    142]⟩

/-- `b"agent"`. -/
def agentSeed : Bytes := [97, 103, 101, 110, 116]

/-- `b"oracle_registry"`. -/
def oracleRegistrySeed : Bytes :=
  [111, 114, 97, 99, 108, 101, 95, 114, 101, 103, 105, 115, 116, 114, 121]

/-- `b"meishi-mandate-v1"`. -/
def mandateDomain : Bytes :=
  [109, 101, 105, 115, 104, 105, 45, 109, 97, 110, 100, 97, 116, 101, 45,
    118, 49]

/-- `[0u8; 32]`. -/
def zeroHash : Bytes := List.replicate 32 0

inductive ComplianceClass where
  | unclassified
  | minimal
  | limited
  | high
  | unacceptable

inductive Jurisdiction where
  | global
  | eu
  | us
  | uk
  | apac

def Jurisdiction.fromU8 : Nat → Jurisdiction
  | 1 => .eu
  | 2 => .us
  | 3 => .uk
  | 4 => .apac
  | _ => .global

inductive SuspensionReason where
  | none
  | complianceFailure
  | fraudDetected
  | mandateExpired
  | oracleConsensus

def SuspensionReason.fromU8 : Nat → SuspensionReason
  | 1 => .complianceFailure
  | 2 => .fraudDetected
  | 3 => .mandateExpired
  | 4 => .oracleConsensus
  | _ => .none

inductive AuditType where
  | initial
  | periodic
  | triggered
  | dispute

def AuditType.fromU8 : Nat → AuditType
  | 1 => .periodic
  | 2 => .triggered
  | 3 => .dispute
  | _ => .initial

/-- What an agent may spend, and on whose word. -/
structure MeishiPassport where
  agentIdentity : Pubkey
  issuer : Pubkey
  principal : Pubkey
  kamonHash : Bytes
  complianceClass : ComplianceClass
  complianceScore : Int
  jurisdiction : Jurisdiction
  /-- Hash of current authorization mandate. -/
  mandateHash : Bytes
  /-- When current mandate expires. -/
  mandateExpires : Int
  /-- Current mandate version counter. -/
  mandateVersion : Nat
  totalTransactions : Nat
  totalVolumeUsd : Nat
  disputesFiled : Nat
  disputesLost : Nat
  lastAudit : Int
  auditNonce : Nat
  suspended : Bool
  suspensionReason : SuspensionReason
  createdAt : Int
  updatedAt : Int

/-- The parameters of a mandate. -/
structure MandateTerms where
  spendingLimitUsd : Nat
  dailyLimitUsd : Nat
  monthlyLimitUsd : Nat
  categoryWhitelist : Bytes
  merchantWhitelistHash : Bytes
  requiresHumanApprovalAbove : Nat
  geoRestrictions : UInt8
  validFrom : Int
  validUntil : Int
  spending_u64 : spendingLimitUsd < 256 ^ 8
  daily_u64 : dailyLimitUsd < 256 ^ 8
  monthly_u64 : monthlyLimitUsd < 256 ^ 8
  category_length : categoryWhitelist.length = 32
  merchant_length : merchantWhitelistHash.length = 32
  approval_u64 : requiresHumanApprovalAbove < 256 ^ 8
  from_i64 : Fixed.InRange 64 validFrom
  until_i64 : Fixed.InRange 64 validUntil
deriving DecidableEq

structure MeishiMandate where
  meishi : Pubkey
  version : Nat
  principalSignature : Bytes
  terms : MandateTerms
  revoked : Bool
  revokedAt : Int
deriving DecidableEq

structure MeishiAudit where
  meishi : Pubkey
  auditor : Pubkey
  auditType : AuditType
  complianceScoreBefore : Int
  complianceScoreAfter : Int
  findingsHash : Bytes
  findingsUal : Bytes
  passed : Bool
  timestamp : Int

structure LiabilityAllocation where
  meishi : Pubkey
  counterparty : Pubkey
  consumerLiabilityBps : Nat
  developerLiabilityBps : Nat
  merchantLiabilityBps : Nat
  platformLiabilityBps : Nat
  maxLiabilityUsd : Nat
  arbitrationOracle : Pubkey
  agreedAt : Int
  expiresAt : Int

/-- An account of another program, as passed to an instruction. -/
structure AccountInfo where
  key : Pubkey
  owner : Pubkey
  data : Bytes

/-- The accounts of the program. -/
structure World where
  passports : Pubkey → Option MeishiPassport
  mandates : Pubkey → Option MeishiMandate
  audits : Pubkey → Option MeishiAudit
  liabilities : Pubkey → Option LiabilityAllocation

/-- Before any instruction of the program. -/
def World.empty : World :=
  ⟨fun _ => none, fun _ => none, fun _ => none, fun _ => none⟩

def World.setPassport (w : World) (k : Pubkey) (p : MeishiPassport) :
    World :=
  { w with passports := update w.passports k (some p) }

def World.setMandate (w : World) (k : Pubkey) (m : MeishiMandate) :
    World :=
  { w with mandates := update w.mandates k (some m) }

section Accounts

variable (w : World) {j k : Pubkey} (p : MeishiPassport) (m : MeishiMandate)

@[simp] theorem setPassport_self (k : Pubkey) :
    (w.setPassport k p).passports k = some p :=
  update_self ..

theorem setPassport_ne (h : k ≠ j) :
    (w.setPassport j p).passports k = w.passports k :=
  update_of_ne h ..

@[simp] theorem setPassport_mandates (k : Pubkey) :
    (w.setPassport k p).mandates = w.mandates := rfl

@[simp] theorem setMandate_self (k : Pubkey) :
    (w.setMandate k m).mandates k = some m :=
  update_self ..

theorem setMandate_ne (h : k ≠ j) :
    (w.setMandate j m).mandates k = w.mandates k :=
  update_of_ne h ..

@[simp] theorem setMandate_passports (k : Pubkey) :
    (w.setMandate k m).passports = w.passports := rfl

end Accounts

-- ==== helpers

def computeKamonHash (env : Env Seed) (agentIdentity issuer : Pubkey)
    (createdAt : Int) : Bytes :=
  env.hash (agentIdentity.bytes ++ issuer.bytes ++ Bytes.leInt 8 createdAt)

def validateLiabilityBps (consumer developer merchant platform : Nat) :
    Bool :=
  consumer + developer + merchant + platform = bpsDenominator

def isSupportedKamiyoProgram (programId : Pubkey) : Bool :=
  programId = kamiyoProgramIdPrimary || programId = kamiyoProgramIdCompat
    || programId = kamiyoProgramIdLocal

def validateAgentIdentityAccount (find : Finder) (info : AccountInfo)
    (owner : Pubkey) : Outcome Unit := do
  ensure (isSupportedKamiyoProgram info.owner = true) .agentIdentityInvalid
  let expected := find [agentSeed, owner.bytes] info.owner
  ensure (info.key = expected) .agentIdentityInvalid
  let identity ← okOr (parseAgentIdentityOwnerAndActive info.data)
    (.custom .agentIdentityInvalid)
  ensure (identity.1 = owner) .agentIdentityInvalid
  ensure (identity.2 = true) .agentIdentityInvalid

def isPassportAuthority (passport : MeishiPassport) (signer : Pubkey) :
    Bool :=
  passport.issuer = signer || passport.principal = signer

def validateOracleRegistryAccount (find : Finder) (info : AccountInfo) :
    Outcome Unit := do
  let expected := find [oracleRegistrySeed] info.owner
  ensure (info.key = expected) .oracleRegistryInvalid

/-- The cosigner loop of `verify_oracle_quorum`: every cosigner signs and
is active; repeated keys count once. -/
def countCosigners (tx : Tx env) (activeOracles : List Pubkey) :
    List Pubkey → List Pubkey → Outcome (List Pubkey)
  | participants, [] => .ok participants
  | participants, key :: rest => do
      ensure (key ∈ tx.signers) .oracleSignerMissing
      ensure (key ∈ activeOracles) .oracleNotRegistered
      if key ∈ participants then
        countCosigners tx activeOracles participants rest
      else countCosigners tx activeOracles (participants ++ [key]) rest

def verifyOracleQuorum (find : Finder) (tx : Tx env) (info : AccountInfo)
    (primaryOracle : Pubkey) (cosigners : List Pubkey) : Outcome Unit := do
  validateOracleRegistryAccount find info
  let registry ← okOr (parseKamiyoOracleRegistry info.data)
    (.custom .oracleRegistryInvalid)
  ensure (primaryOracle ∈ registry.2) .oracleNotRegistered
  let participants ← countCosigners tx registry.2 [primaryOracle] cosigners
  ensure (registry.1 ≤ participants.length) .oracleConsensusInsufficient

/-- What a principal signs: the concatenation `compute_mandate_message_hash`
hashes. -/
def mandateMessage (passport : Pubkey) (version : Nat)
    (t : MandateTerms) : Bytes :=
  mandateDomain ++ (passport.bytes ++ (Bytes.le 4 version
    ++ (Bytes.le 8 t.spendingLimitUsd ++ (Bytes.le 8 t.dailyLimitUsd
    ++ (Bytes.le 8 t.monthlyLimitUsd ++ (t.categoryWhitelist
    ++ (t.merchantWhitelistHash
    ++ (Bytes.le 8 t.requiresHumanApprovalAbove ++ ([t.geoRestrictions]
    ++ (Bytes.leInt 8 t.validFrom ++ Bytes.leInt 8 t.validUntil))))))))))

def computeMandateMessageHash (env : Env Seed) (passport : Pubkey)
    (version : Nat) (t : MandateTerms) : Bytes :=
  env.hash (mandateMessage passport version t)

def readU16 (data : Bytes) (offset : Nat) : Option Nat :=
  if offset + 2 ≤ data.length then some (Bytes.u16At data offset) else none

/-- `verify_ed25519_mandate_signature`, in the instruction at
`currentIndex`. -/
def verifyEd25519MandateSignature (instructions : List Instruction)
    (currentIndex : Nat) (principal : Pubkey)
    (messageHash principalSignature : Bytes) : Outcome Unit := do
  ensure (0 < currentIndex) .mandateSignatureMissing
  let sigIx ← okOr instructions[currentIndex - 1]?
    (.custom .mandateSignatureMissing)
  ensure (sigIx.programId = Ed25519.programId) .mandateSignatureMissing
  let data := sigIx.data
  let invalid := Fault.custom MeishiError.invalidMandateSignature
  ensure (16 ≤ data.length) .invalidMandateSignature
  ensure (data[0]? = some 1) .invalidMandateSignature
  let signatureOffset ← okOr (readU16 data 2) invalid
  let signatureIxIndex ← okOr (readU16 data 4) invalid
  let publicKeyOffset ← okOr (readU16 data 6) invalid
  let publicKeyIxIndex ← okOr (readU16 data 8) invalid
  let messageOffset ← okOr (readU16 data 10) invalid
  let messageSize ← okOr (readU16 data 12) invalid
  let messageIxIndex ← okOr (readU16 data 14) invalid
  -- 0xFFFF names the instruction itself
  ensure (signatureIxIndex = 0xFFFF ∧ publicKeyIxIndex = 0xFFFF
    ∧ messageIxIndex = 0xFFFF) .invalidMandateSignature
  ensure (messageSize = 32) .invalidMandateSignature
  ensure (signatureOffset + 64 ≤ data.length
    ∧ publicKeyOffset + 32 ≤ data.length
    ∧ messageOffset + messageSize ≤ data.length) .invalidMandateSignature
  ensure (Bytes.window data publicKeyOffset 32 = some principal.bytes)
    .invalidMandateSignature
  ensure (Bytes.window data signatureOffset 64 = some principalSignature)
    .invalidMandateSignature
  ensure (Bytes.window data messageOffset messageSize = some messageHash)
    .invalidMandateSignature

-- ==== instructions

structure CreateMeishiAccounts where
  owner : Pubkey
  agentIdentity : AccountInfo

def createMeishi (env : Env Seed) (find : Finder) (tx : Tx env)
    (acc : CreateMeishiAccounts) (jurisdiction : Nat) (w : World) :
    Outcome World := do
  requireSigner tx acc.owner
  let k := env.pda (.passport acc.agentIdentity.key)
  requireFresh (w.passports k)
  ensure (jurisdiction ≤ 4) .invalidJurisdiction
  validateAgentIdentityAccount find acc.agentIdentity acc.owner
  .ok (w.setPassport k
    { agentIdentity := acc.agentIdentity.key
      issuer := acc.owner
      principal := acc.owner
      kamonHash := computeKamonHash env acc.agentIdentity.key acc.owner
        tx.clock
      complianceClass := .unclassified
      complianceScore := defaultComplianceScore
      jurisdiction := Jurisdiction.fromU8 jurisdiction
      mandateHash := zeroHash
      mandateExpires := 0
      mandateVersion := 0
      totalTransactions := 0
      totalVolumeUsd := 0
      disputesFiled := 0
      disputesLost := 0
      lastAudit := 0
      auditNonce := 0
      suspended := false
      suspensionReason := .none
      createdAt := tx.clock
      updatedAt := tx.clock })

structure UpdateMandateAccounts where
  principal : Pubkey
  passport : Pubkey

/-- The checks `update_mandate` makes of its parameters. -/
def validateTerms (tx : Tx env) (t : MandateTerms) : Outcome Unit := do
  let duration ← subI64 t.validUntil t.validFrom
  ensure (tx.clock ≤ t.validFrom) .mandateInPast
  ensure (t.validFrom < t.validUntil) .invalidMandateDuration
  ensure (minMandateDuration ≤ duration ∧ duration ≤ maxMandateDuration)
    .invalidMandateDuration
  ensure (t.spendingLimitUsd ≤ maxSpendingLimit) .spendingLimitExceeded
  ensure (t.dailyLimitUsd ≤ maxSpendingLimit) .spendingLimitExceeded
  ensure (t.monthlyLimitUsd ≤ maxSpendingLimit) .spendingLimitExceeded
  ensure (t.spendingLimitUsd ≤ t.dailyLimitUsd) .invalidSpendingHierarchy
  ensure (t.dailyLimitUsd ≤ t.monthlyLimitUsd) .invalidSpendingHierarchy

/-- `update_mandate`, as the instruction at `currentIndex`. -/
def updateMandate (env : Env Seed) (tx : Tx env) (currentIndex : Nat)
    (acc : UpdateMandateAccounts) (t : MandateTerms)
    (principalSignature : Bytes) (w : World) : Outcome World := do
  requireSigner tx acc.principal
  let passport ← load (w.passports acc.passport)
  ensure (passport.principal = acc.principal) .unauthorized
  ensure (passport.mandateVersion < 2 ^ 32 - 1) .arithmeticOverflow
  let k := env.pda (.mandate acc.passport (passport.mandateVersion + 1))
  requireFresh (w.mandates k)
  validateTerms tx t
  let version ← okOr (Fixed.checkedAdd 32 passport.mandateVersion 1)
    (.custom .arithmeticOverflow)
  let messageHash := computeMandateMessageHash env acc.passport version t
  verifyEd25519MandateSignature tx.instructions currentIndex acc.principal
    messageHash principalSignature
  let w := w.setMandate k
    { meishi := acc.passport
      version := version
      principalSignature := principalSignature
      terms := t
      revoked := false
      revokedAt := 0 }
  .ok (w.setPassport acc.passport
    { passport with
      mandateHash := messageHash
      mandateExpires := t.validUntil
      mandateVersion := version
      updatedAt := tx.clock })

structure RevokeMandateAccounts where
  principal : Pubkey
  passport : Pubkey
  mandate : Pubkey

def revokeMandate (tx : Tx env) (acc : RevokeMandateAccounts)
    (w : World) : Outcome World := do
  requireSigner tx acc.principal
  let passport ← load (w.passports acc.passport)
  ensure (passport.principal = acc.principal) .unauthorized
  let mandate ← load (w.mandates acc.mandate)
  ensure (mandate.meishi = acc.passport) .mandateMismatch
  ensure (mandate.revoked = false) .mandateAlreadyRevoked
  let w := w.setMandate acc.mandate
    { mandate with revoked := true, revokedAt := tx.clock }
  .ok (w.setPassport acc.passport
    { passport with
      mandateHash := zeroHash
      mandateExpires := 0
      updatedAt := tx.clock })

/-- An oracle writes to a passport; `cosigners` are the remaining
accounts. -/
structure OracleWrite where
  oracle : Pubkey
  passport : Pubkey
  oracleRegistry : Option AccountInfo
  cosigners : List Pubkey

/-- The gate in front of `record_audit` and `update_compliance_score`: an
oracle that is no authority of the passport brings a quorum. -/
def authorizeOracle (find : Finder) (tx : Tx env) (acc : OracleWrite)
    (passport : MeishiPassport) : Outcome Unit :=
  if isPassportAuthority passport acc.oracle = true then .ok ()
  else do
    let info ← okOr acc.oracleRegistry (.custom .oracleRegistryMissing)
    verifyOracleQuorum find tx info acc.oracle acc.cosigners

/-- The arguments of `record_audit`. -/
structure AuditReport where
  auditType : Nat
  complianceScoreAfter : Int
  findingsHash : Bytes
  findingsUal : Bytes
  passed : Bool

def recordAudit (env : Env Seed) (find : Finder) (tx : Tx env)
    (acc : OracleWrite) (report : AuditReport) (w : World) :
    Outcome World := do
  requireSigner tx acc.oracle
  let passport ← load (w.passports acc.passport)
  let k := env.pda (.audit acc.passport passport.auditNonce)
  requireFresh (w.audits k)
  authorizeOracle find tx acc passport
  ensure (report.auditType ≤ 3) .invalidAuditType
  ensure (minComplianceScore ≤ report.complianceScoreAfter
    ∧ report.complianceScoreAfter ≤ maxComplianceScore)
    .invalidComplianceScore
  ensure (report.findingsUal.length ≤ 256) .ualTooLong
  let nonce ← okOr (Fixed.checkedAdd 32 passport.auditNonce 1)
    (.custom .arithmeticOverflow)
  let w := { w with
    audits := update w.audits k (some
      { meishi := acc.passport
        auditor := acc.oracle
        auditType := AuditType.fromU8 report.auditType
        complianceScoreBefore := passport.complianceScore
        complianceScoreAfter := report.complianceScoreAfter
        findingsHash := report.findingsHash
        findingsUal := report.findingsUal
        passed := report.passed
        timestamp := tx.clock }) }
  .ok (w.setPassport acc.passport
    { passport with
      complianceScore := report.complianceScoreAfter
      lastAudit := tx.clock
      auditNonce := nonce
      updatedAt := tx.clock })

def updateComplianceScore (find : Finder) (tx : Tx env)
    (acc : OracleWrite) (newScore : Int) (w : World) : Outcome World := do
  requireSigner tx acc.oracle
  let passport ← load (w.passports acc.passport)
  authorizeOracle find tx acc passport
  ensure (minComplianceScore ≤ newScore ∧ newScore ≤ maxComplianceScore)
    .invalidComplianceScore
  let passport := { passport with
    complianceScore := newScore, updatedAt := tx.clock }
  -- a critical drop suspends
  if newScore < -500 ∧ passport.suspended = false then
    .ok (w.setPassport acc.passport
      { passport with
        suspended := true, suspensionReason := .complianceFailure })
  else .ok (w.setPassport acc.passport passport)

/-- `SuspendMeishi`, `UnsuspendMeishi` and `RecordTransaction`. -/
structure AuthorityAccounts where
  authority : Pubkey
  passport : Pubkey

def suspendMeishi (tx : Tx env) (acc : AuthorityAccounts) (reason : Nat)
    (w : World) : Outcome World := do
  requireSigner tx acc.authority
  let passport ← load (w.passports acc.passport)
  ensure (isPassportAuthority passport acc.authority = true) .unauthorized
  ensure (passport.suspended = false) .alreadySuspended
  ensure (1 ≤ reason ∧ reason ≤ 4) .invalidSuspensionReason
  .ok (w.setPassport acc.passport
    { passport with
      suspended := true
      suspensionReason := SuspensionReason.fromU8 reason
      updatedAt := tx.clock })

def unsuspendMeishi (tx : Tx env) (acc : AuthorityAccounts) (w : World) :
    Outcome World := do
  requireSigner tx acc.authority
  let passport ← load (w.passports acc.passport)
  ensure (passport.suspended = true) .notSuspended
  ensure (isPassportAuthority passport acc.authority = true) .unauthorized
  .ok (w.setPassport acc.passport
    { passport with
      suspended := false
      suspensionReason := .none
      updatedAt := tx.clock })

structure SetLiabilityAccounts where
  agentOwner : Pubkey
  counterparty : Pubkey
  passport : Pubkey
  arbitrationOracle : Pubkey

/-- The arguments of `set_liability_allocation`. -/
structure LiabilityArgs where
  consumer : Nat
  developer : Nat
  merchant : Nat
  platform : Nat
  maxLiabilityUsd : Nat
  expiresAt : Int

def setLiabilityAllocation (env : Env Seed) (tx : Tx env)
    (acc : SetLiabilityAccounts) (args : LiabilityArgs) (w : World) :
    Outcome World := do
  requireSigner tx acc.agentOwner
  requireSigner tx acc.counterparty
  let passport ← load (w.passports acc.passport)
  ensure (passport.issuer = acc.agentOwner) .unauthorized
  ensure (passport.suspended = false) .passportSuspended
  let k := env.pda (.liability acc.passport acc.counterparty)
  requireFresh (w.liabilities k)
  ensure (validateLiabilityBps args.consumer args.developer args.merchant
    args.platform = true) .liabilityBpsMismatch
  ensure (tx.clock < args.expiresAt) .liabilityExpired
  ensure (0 < args.maxLiabilityUsd) .invalidLiabilityCap
  ensure (args.maxLiabilityUsd ≤ maxSpendingLimit) .spendingLimitExceeded
  .ok { w with
    liabilities := update w.liabilities k (some
      { meishi := acc.passport
        counterparty := acc.counterparty
        consumerLiabilityBps := args.consumer
        developerLiabilityBps := args.developer
        merchantLiabilityBps := args.merchant
        platformLiabilityBps := args.platform
        maxLiabilityUsd := args.maxLiabilityUsd
        arbitrationOracle := acc.arbitrationOracle
        agreedAt := tx.clock
        expiresAt := args.expiresAt }) }

/-- A counter that goes up when the flag is set. -/
def countIf (flag : Bool) (n : Nat) : Outcome Nat :=
  if flag = true then
    okOr (Fixed.checkedAdd 32 n 1) (.custom .arithmeticOverflow)
  else .ok n

def recordTransaction (tx : Tx env) (acc : AuthorityAccounts)
    (volumeUsd : Nat) (disputed disputeLost : Bool) (w : World) :
    Outcome World := do
  requireSigner tx acc.authority
  let passport ← load (w.passports acc.passport)
  ensure (passport.suspended = false) .passportSuspended
  ensure (isPassportAuthority passport acc.authority = true) .unauthorized
  ensure (disputeLost = false ∨ disputed = true) .invalidDisputeState
  let transactions ← okOr
    (Fixed.checkedAdd 64 passport.totalTransactions 1)
    (.custom .arithmeticOverflow)
  let volume ← okOr
    (Fixed.checkedAdd 64 passport.totalVolumeUsd volumeUsd)
    (.custom .arithmeticOverflow)
  let filed ← countIf disputed passport.disputesFiled
  let lost ← countIf disputeLost passport.disputesLost
  .ok (w.setPassport acc.passport
    { passport with
      totalTransactions := transactions
      totalVolumeUsd := volume
      disputesFiled := filed
      disputesLost := lost
      updatedAt := tx.clock })

structure TransferPrincipalAccounts where
  currentPrincipal : Pubkey
  passport : Pubkey
  newPrincipal : Pubkey

def transferPrincipal (tx : Tx env) (acc : TransferPrincipalAccounts)
    (w : World) : Outcome World := do
  requireSigner tx acc.currentPrincipal
  let passport ← load (w.passports acc.passport)
  ensure (passport.principal = acc.currentPrincipal) .unauthorized
  .ok (w.setPassport acc.passport
    { passport with
      principal := acc.newPrincipal
      updatedAt := tx.clock })

-- ==== machine

inductive Op where
  | createMeishi (acc : CreateMeishiAccounts) (jurisdiction : Nat)
  | updateMandate (currentIndex : Nat) (acc : UpdateMandateAccounts)
      (terms : MandateTerms) (principalSignature : Bytes)
  | revokeMandate (acc : RevokeMandateAccounts)
  | recordAudit (acc : OracleWrite) (report : AuditReport)
  | updateComplianceScore (acc : OracleWrite) (newScore : Int)
  | suspendMeishi (acc : AuthorityAccounts) (reason : Nat)
  | unsuspendMeishi (acc : AuthorityAccounts)
  | setLiabilityAllocation (acc : SetLiabilityAccounts)
      (args : LiabilityArgs)
  | recordTransaction (acc : AuthorityAccounts) (volumeUsd : Nat)
      (disputed disputeLost : Bool)
  | transferPrincipal (acc : TransferPrincipalAccounts)

/-- One instruction in its transaction. -/
structure Action (env : Env Seed) where
  tx : Tx env
  op : Op

/-- Run an instruction. -/
def step (env : Env Seed) (find : Finder) (a : Action env) (w : World) :
    Outcome World :=
  match a.op with
  | .createMeishi acc j => createMeishi env find a.tx acc j w
  | .updateMandate i acc t s => updateMandate env a.tx i acc t s w
  | .revokeMandate acc => revokeMandate a.tx acc w
  | .recordAudit acc r => recordAudit env find a.tx acc r w
  | .updateComplianceScore acc n => updateComplianceScore find a.tx acc n w
  | .suspendMeishi acc r => suspendMeishi a.tx acc r w
  | .unsuspendMeishi acc => unsuspendMeishi a.tx acc w
  | .setLiabilityAllocation acc args =>
    setLiabilityAllocation env a.tx acc args w
  | .recordTransaction acc n d l => recordTransaction a.tx acc n d l w
  | .transferPrincipal acc => transferPrincipal a.tx acc w

end KamiyoProtocol.Meishi
