import Noyra.Wallet.Economy

/-!
# Wallet registrations and balance observations

The part of `WalletStore` that payments depend on: networks, assets and addresses are registered and
revoked at most once, and balance observations are only added. Labels, symbols and the store's own
hashes are not read by any payment and are left out.
-/

namespace Noyra.Wallet
open Noyra.Lib

/-- `register_network`. -/
def registerNetwork (db : DB) (r : Readings) (subjectId : Id) (chainId : Nat) (actor : String) :
    Except PyError DB := do
  let actor ← operator actor
  validateSubjectId subjectId
  raiseIf (chainId < 1 ∨ sqliteInt64Max < chainId) (.valueError "wallet chain id is invalid")
  raiseIf (∃ n ∈ db.networks.rows, n.subjectId = subjectId ∧ n.chainId = chainId)
    (.valueError "wallet network already registered")
  let networkId := newId "walletnet" (r 0)
  let db := audit db (r 1) subjectId "wallet_network_registered" actor (.obj [("network_id", .str networkId)])
  let networks ← orRaise (db.networks.insert? ⟨networkId, subjectId, chainId, .active⟩)
    (.valueError "wallet network conflicts with durable state")
  .ok { db with networks }

/-- `register_asset`; a native asset has no contract and is unique on its network. -/
def registerAsset (db : DB) (r : Readings) (subjectId networkId : Id) (contractAddress : Option String)
    (actor : String) : Except PyError DB := do
  let actor ← operator actor
  validateSubjectId subjectId
  raiseIf (∃ c ∈ contractAddress, isCanonicalAddress c = false) (.valueError "wallet contract is invalid")
  let network ← db.networkRow networkId subjectId
  raiseIf (network.status ≠ .active) (.valueError "wallet network is not active")
  raiseIf (∃ a ∈ db.assets.rows, a.subjectId = subjectId ∧ a.networkId = networkId ∧
      a.contractAddress = contractAddress)
    (.valueError "wallet asset already registered")
  let assetId := newId "walletasset" (r 0)
  let assetType : AssetType := if contractAddress.isSome then .token else .native
  let db := audit db (r 1) subjectId "wallet_asset_registered" actor (.obj [("asset_id", .str assetId)])
  let assets ← orRaise (db.assets.insert? ⟨assetId, subjectId, networkId, assetType, contractAddress, .active⟩)
    (.valueError "wallet asset conflicts with durable state")
  .ok { db with assets }

/-- `register_address`; a revoked address may be registered again. -/
def registerAddress (db : DB) (r : Readings) (subjectId networkId : Id) (address : String)
    (purpose : AddressPurpose) (actor : String) : Except PyError DB := do
  let actor ← operator actor
  validateSubjectId subjectId
  raiseIf (isCanonicalAddress address = false) (.valueError "wallet address is invalid")
  let network ← db.networkRow networkId subjectId
  raiseIf (network.status ≠ .active) (.valueError "wallet network is not active")
  raiseIf (∃ a ∈ db.addresses.rows, a.subjectId = subjectId ∧ a.networkId = networkId ∧ a.status = .active ∧
      a.address = address)
    (.valueError "wallet address already registered")
  let addressId := newId "walletaddr" (r 0)
  let db := audit db (r 1) subjectId "wallet_address_registered" actor
    (.obj [("address_id", .str addressId)])
  let addresses ← orRaise
    (db.addresses.insert? ⟨addressId, subjectId, networkId, address, purpose, .active, (r 0).utc⟩)
    (.valueError "wallet address conflicts with durable state")
  .ok { db with addresses }

inductive Registration
  | network (networkId : Id)
  | asset (assetId : Id)
  | address (addressId : Id)

/-- `revoke_network`, `revoke_asset` and `revoke_address`; revoking twice changes nothing. -/
def revoke (db : DB) (r : Readings) (subjectId : Id) (actor : String) : Registration → Except PyError DB
  | .network networkId => do
    let actor ← operator actor
    let row ← db.networkRow networkId subjectId
    if row.status = .revoked then .ok db
    else do
      raiseIf ((∃ a ∈ db.assets.rows, a.subjectId = subjectId ∧ a.networkId = networkId ∧
            a.status = .active) ∨
          ∃ a ∈ db.addresses.rows, a.subjectId = subjectId ∧ a.networkId = networkId ∧ a.status = .active)
        (.valueError "wallet network has active asset or address registrations")
      let db := audit db (r 0) subjectId "wallet_network_revoked" actor
        (.obj [("network_id", .str networkId)])
      .ok { db with networks := db.networks.replace { row with status := .revoked } }
  | .asset assetId => do
    let actor ← operator actor
    let row ← db.assetRow assetId subjectId
    if row.status = .revoked then .ok db
    else
      let db := audit db (r 0) subjectId "wallet_asset_revoked" actor (.obj [("asset_id", .str assetId)])
      .ok { db with assets := db.assets.replace { row with status := .revoked } }
  | .address addressId => do
    let actor ← operator actor
    let row ← orRaise ((db.addresses.find? addressId).filter (fun a => a.subjectId = subjectId))
      (.notFoundError ("wallet address not found: " ++ addressId))
    if row.status = .revoked then .ok db
    else
      let db := audit db (r 0) subjectId "wallet_address_revoked" actor
        (.obj [("address_id", .str addressId)])
      .ok { db with addresses := db.addresses.replace { row with status := .revoked } }

/-- `record_balance_snapshot`. -/
def recordBalanceSnapshot (db : DB) (r : Readings) (subjectId assetId addressId : Id) (balance : Nat)
    (observedAt : Option Time) (actor : String) : Except PyError DB := do
  let _ ← operator actor
  validateSubjectId subjectId
  let asset ← db.assetRow assetId subjectId
  let address ← orRaise ((db.addresses.find? addressId).filter (fun a => a.subjectId = subjectId))
    (.notFoundError ("wallet address not found: " ++ addressId))
  raiseIf (asset.status ≠ .active ∨ address.status ≠ .active ∨ asset.networkId ≠ address.networkId)
    (.valueError "wallet balance references are not active on one network")
  let network ← db.networkRow asset.networkId subjectId
  raiseIf (network.status ≠ .active) (.valueError "wallet network is not active")
  db.insertSnapshot ⟨newId "walletbal" (r 0), subjectId, asset.networkId, assetId, addressId, balance,
    observedAt.getD (r 0).utc⟩

end Noyra.Wallet
