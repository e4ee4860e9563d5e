import Noyra.Wallet.Registry

/-!
# Transfer envelopes

`WalletTransferIntent`, `WalletUnsignedTransfer` and `EVMTransferAdapter.build`: the only transactions
that cross the signer boundary.
-/

namespace Noyra.Wallet
open Noyra.Lib

def maxGasLimit : Nat := 30000000

structure WalletTransferIntent where
  orderId : Id
  subjectId : Id
  networkId : Id
  assetId : Id
  assetType : AssetType
  contractAddress : Option String
  sourceAddress : String
  recipientAddress : String
  amount : Nat
  chainId : Nat
  nonce : Nat
  gasLimit : Nat
  maxFeePerGas : Nat
  deriving DecidableEq

structure WalletUnsignedTransfer where
  chainId : Nat
  nonce : Nat
  gasLimit : Nat
  maxFeePerGas : Nat
  sourceAddress : String
  toAddress : String
  value : Nat
  data : String
  assetType : AssetType
  contractAddress : Option String
  deriving DecidableEq

/-- An address field, in lower case. It has exactly 42 characters, so that nothing is left for
`canonical_evm_address` to strip. -/
def addressField (value : String) : Except PyError String :=
  orRaise (if isHex 40 value then some (lower value) else none)
    (.valueError "wallet address must be a 20-byte EVM address")

def optionalAddressField : Option String → Except PyError (Option String)
  | none => .ok none
  | some value => do
    let address ← addressField value
    .ok (some address)

/-- Field and model validation of `WalletTransferIntent`. -/
def WalletTransferIntent.validate (i : WalletTransferIntent) : Except PyError WalletTransferIntent := do
  raiseIf (∃ s ∈ [i.orderId, i.subjectId, i.networkId, i.assetId], s = "" ∨ longerThan 128 s)
    (.valueError "wallet transfer identifier is invalid")
  let contractAddress ← optionalAddressField i.contractAddress
  let sourceAddress ← addressField i.sourceAddress
  let recipientAddress ← addressField i.recipientAddress
  raiseIf (i.amount = 0 ∨ sqliteInt64Max < i.amount) (.valueError "transfer amount is out of range")
  raiseIf (i.chainId < 1 ∨ sqliteInt64Max < i.chainId) (.valueError "chain_id is out of range")
  raiseIf (sqliteInt64Max < i.nonce) (.valueError "nonce is out of range")
  raiseIf (i.gasLimit < 21000 ∨ maxGasLimit < i.gasLimit) (.valueError "gas_limit is out of range")
  raiseIf (i.maxFeePerGas = 0 ∨ maxUint256 < i.maxFeePerGas) (.valueError "max fee per gas is out of range")
  raiseIf (i.assetType = .native ∧ contractAddress ≠ none)
    (.valueError "native transfer cannot contain a token contract")
  raiseIf (i.assetType = .token ∧ contractAddress = none)
    (.valueError "token transfer requires its registered contract")
  raiseIf (i.assetType = .token ∧ i.gasLimit < 50000) (.valueError "token transfer gas limit is too low")
  raiseIf (sourceAddress = recipientAddress) (.valueError "wallet source and recipient must differ")
  .ok { i with contractAddress, sourceAddress, recipientAddress }

/-- Calldata of `transfer(recipient, amount)`. -/
def transferCalldata (recipient : String) (amount : Nat) : String :=
  "0xa9059cbb" ++ padLeft 64 '0' (String.ofList (recipient.toList.drop 2)) ++ hexWord amount

/-- Model validation of `WalletUnsignedTransfer`. -/
def WalletUnsignedTransfer.shape (t : WalletUnsignedTransfer) : Except PyError Unit :=
  match t.assetType with
  | .native => raiseIf (t.contractAddress ≠ none ∨ t.data ≠ "0x" ∨ t.value = 0)
      (.valueError "native transfer envelope is invalid")
  | .token => do
    raiseIf (t.contractAddress ≠ some t.toAddress) (.valueError "token transfer target is invalid")
    raiseIf (t.value ≠ 0 ∨ t.data.utf8ByteSize ≠ 138 ∨ (bytes t.data).take 10 ≠ bytes "0xa9059cbb")
      (.valueError "token transfer calldata is not canonical")

/-- A calldata field, in lower case: `0x` and at most 2046 hexadecimal digits, an even number of them. -/
def dataField (value : String) : Except PyError String :=
  match bytes value with
  | 48 :: 120 :: digits =>
    orRaise (if digits.length ≤ 2046 ∧ digits.length % 2 = 0 ∧ digits.all isHexDigit then some (lower value) else none)
      (.valueError "transaction data is invalid")
  | _ => .error (.valueError "transaction data is invalid")

/-- `WalletUnsignedTransfer.model_validate`. -/
def WalletUnsignedTransfer.validate (t : WalletUnsignedTransfer) : Except PyError WalletUnsignedTransfer := do
  raiseIf (t.chainId < 1 ∨ sqliteInt64Max < t.chainId) (.valueError "chain_id is out of range")
  raiseIf (sqliteInt64Max < t.nonce) (.valueError "nonce is out of range")
  raiseIf (t.gasLimit < 21000 ∨ maxGasLimit < t.gasLimit) (.valueError "gas_limit is out of range")
  raiseIf (maxUint256 < t.maxFeePerGas) (.valueError "transaction quantity is out of range")
  let sourceAddress ← addressField t.sourceAddress
  let toAddress ← addressField t.toAddress
  raiseIf (maxUint256 < t.value) (.valueError "transaction quantity is out of range")
  let data ← dataField t.data
  let contractAddress ← optionalAddressField t.contractAddress
  let transfer : WalletUnsignedTransfer := { t with sourceAddress, toAddress, data, contractAddress }
  transfer.shape
  .ok transfer

/-- `EVMTransferAdapter.build`, on a validated intent. -/
def EVMTransferAdapter.build (i : WalletTransferIntent) : Except PyError WalletUnsignedTransfer := do
  let transfer : WalletUnsignedTransfer :=
    match i.assetType with
    | .native =>
      { chainId := i.chainId, nonce := i.nonce, gasLimit := i.gasLimit, maxFeePerGas := i.maxFeePerGas,
        sourceAddress := i.sourceAddress, toAddress := i.recipientAddress, value := i.amount,
        data := "0x", assetType := .native, contractAddress := none }
    | .token =>
      { chainId := i.chainId, nonce := i.nonce, gasLimit := i.gasLimit, maxFeePerGas := i.maxFeePerGas,
        sourceAddress := i.sourceAddress, toAddress := i.contractAddress.getD "", value := 0,
        data := transferCalldata i.recipientAddress i.amount, assetType := .token,
        contractAddress := i.contractAddress }
  transfer.shape
  .ok transfer

/-- The envelope of an intent. -/
def buildTransfer (i : WalletTransferIntent) : Except PyError WalletUnsignedTransfer := do
  let intent ← i.validate
  EVMTransferAdapter.build intent

/-- The intent a retry rebuilds from the stored execution. -/
def ExecutionRow.intent (e : ExecutionRow) : WalletTransferIntent :=
  { orderId := e.orderId, subjectId := e.subjectId, networkId := e.networkId, assetId := e.assetId,
    assetType := e.assetType, contractAddress := e.contractAddress, sourceAddress := e.sourceAddress,
    recipientAddress := e.recipientAddress, amount := e.amount, chainId := e.chainId, nonce := e.nonce,
    gasLimit := e.gasLimit, maxFeePerGas := e.maxFeePerGas }

/-- `transfer.model_dump(mode="json")`. -/
def WalletUnsignedTransfer.dump (t : WalletUnsignedTransfer) : Json :=
  .obj [("chain_id", .nat t.chainId), ("nonce", .nat t.nonce), ("gas_limit", .nat t.gasLimit),
    ("max_fee_per_gas", .amount t.maxFeePerGas), ("source_address", .str t.sourceAddress),
    ("to_address", .str t.toAddress), ("value", .amount t.value), ("data", .str t.data),
    ("asset_type", .str t.assetType.text), ("contract_address", .opt .str t.contractAddress)]

end Noyra.Wallet
