import Mathlib.Data.List.Perm.Subperm
import PropAMM.Router.Selection
import PropAMM.Sdk.PythonOverrides
import PropAMM.Sdk.RevertNames
import PropAMM.Sdk.RustOverrides
import PropAMM.Sdk.TypeScriptOverrides

/-! # Quotes venue by venue

`get_quotes` of the three SDKs: one `eth_call` per venue, all of them on one snapshot of
overrides, ranked best first. What it lists are the quotes the router would select from,
in the order in which it would select them.
-/

namespace PropAMM.Bindings

open PropAMM.Abi Txn

/-- A step of an SDK over the state of its sources. -/
abbrev SdkM (σ : Type) := EStateM Error σ

structure Quote where
  amountOut : Nat
  venue : Address

/-- Where the overrides of a quote come from. -/
inductive QuoteOverrides (S σ : Type) where
  | attached
  | skip
  | source (getOverrides : SdkM σ S)
  | snapshot (snapshot : S)

structure QuoteOptions (S σ : Type) where
  overrides : QuoteOverrides S σ
  bebopDefault : Bool
  venues : Option (List Address)

/-- The overrides an `eth_call` carries. -/
structure CallOverrides (T N : Type) where
  state : Option T
  number : Option N
  time : Option N

def CallOverrides.default {T N : Type} : CallOverrides T N := ⟨none, none, none⟩

structure PropAmmRouter (D O S σ : Type) where
  address : Address
  client : Client D O
  /-- The attached source. -/
  overrides : SdkM σ S

def beaconGenesisTs : Nat := 1606824023

def secsPerSlot : Nat := 12

def sortQuotes (quotes : List Quote) : List Quote :=
  quotes.mergeSort fun a b => b.amountOut ≤ a.amountOut

section Calls

variable {D O S σ : Type}

/-- The snapshot of one quote, where it has one. -/
def PropAmmRouter.resolveSnapshot (router : PropAmmRouter D O S σ) (opts : QuoteOptions S σ) :
    SdkM σ (Option S) :=
  match opts.overrides with
  | .skip => pure none
  | .attached => some <$> router.overrides
  | .source getOverrides => some <$> getOverrides
  | .snapshot snapshot => pure (some snapshot)

/-- The overrides of one quote, from what its snapshot flattens to. -/
def PropAmmRouter.resolveWith (router : PropAmmRouter D O S σ) (noOverrides : O)
    (flatten : S → Except Error O) (opts : QuoteOptions S σ) : SdkM σ O := do
  match ← router.resolveSnapshot opts with
  | none => return noOverrides
  | some snapshot => lift (flatten snapshot)

/-- The whitelist, as the libraries read a view. -/
def PropAmmRouter.readWhitelistedVenues (router : PropAmmRouter D O S σ) (noOverrides : O) :
    Except Error (List Address) := do
  let data ← router.client.encodeFunctionData "getWhitelistedVenues" []
  let raw ← router.client.ethCall router.address data noOverrides
  match router.client.codec.decodeReturned ["address[]"] raw with
  | .ok [list] => match list.addresses? with
    | some venues => .ok venues
    | _ => .error (.abi "unexpected types")
  | .ok _ => .error (.abi "unexpected types")
  | .error e => .error (.abi e)

/-- The pair a quote returns. -/
def decodeQuote (codec : Codec D) (raw : Bytes) : Except Error Quote :=
  match codec.decodeReturned ["uint256", "address"] raw with
  | .ok [.uint amountOut, .address venue] => .ok ⟨amountOut, venue⟩
  | .ok _ => .error (.abi "unexpected types")
  | .error e => .error (.abi e)

def quoteName : VenueMode → String
  | .all => "quoteV1"
  | .single => "quoteVenueV1"
  | .selected => "quoteSelectedVenuesV1"

/-- Only a revert means that the venue does not price the pair. -/
def orNone : Except Error Quote → Except Error (Option Quote)
  | .ok quote => .ok (some quote)
  | .error (.revert _ _) => .ok none
  | .error e => .error e

/-- The order in which calls that are awaited together come in. -/
abbrev Completion := (calls : List (Except Error (Option Quote))) → { done // List.Perm done calls }

/-- The first error to come in is raised; without one the results stand in the order of
    the calls. -/
def gather (completed : Completion) (calls : List (Except Error (Option Quote))) :
    Except Error (List (Option Quote)) :=
  match (completed calls).1.findSome? fun call => match call with
    | .error e => some e
    | .ok _ => none with
  | some e => .error e
  | none => .ok (calls.filterMap Except.toOption)

/-- The quotes that are quotes, best first. -/
def rankQuotes (quotes : List (Option Quote)) : List Quote :=
  sortQuotes ((quotes.filterMap id).filter fun quote => quote.amountOut > 0)

/-- A snapshot that is resolved already. -/
def QuoteOverrides.resolved : Option S → QuoteOverrides S σ
  | some s => .snapshot s
  | none => .skip

/-- The quotes of all venues on one snapshot. A quote that is given its snapshot leaves the
    sources alone. -/
def PropAmmRouter.quoteEach (router : PropAmmRouter D O S σ) (completed : Completion)
    (quote : QuoteOptions S σ → SdkM σ Quote) (opts : QuoteOptions S σ) (venues : List Address) :
    SdkM σ (List Quote) := do
  let snapshot ← router.resolveSnapshot opts
  let overrides := QuoteOverrides.resolved snapshot
  fun s =>
    let one (venue : Address) : Except Error Quote :=
      match quote { opts with overrides, venues := some [venue] } s with
      | .ok quote _ => .ok quote
      | .error e _ => .error e
    lift ((gather completed (venues.map fun venue => orNone (one venue))).map rankQuotes) s

end Calls

end PropAMM.Bindings

/-! ## Rust -/

namespace PropAMM.Rust

/-- `block_time_secs`, in 64 bits. -/
def OverridesSnapshot.blockTimeSecs (snapshot : OverridesSnapshot) : Option Nat :=
  match snapshot.slot with
  | some slot => some ((Bindings.beaconGenesisTs + slot * Bindings.secsPerSlot) % 2 ^ 64)
  | none => snapshot.timestampNs.map fun ns => ns / 1000000000

namespace Router

open PropAMM.Abi Txn

abbrev CallOverrides := Bindings.CallOverrides StateOverrideSet Nat

namespace Abi

def quote : String := "quoteV1(address,address,uint256)"
def quoteVenue : String := "quoteVenueV1(address,address,address,uint256)"
def quoteSelectedVenues : String := "quoteSelectedVenuesV1(address[],address,address,uint256)"
def getWhitelistedVenues : String := "getWhitelistedVenues()"

end Abi

def quoteSelector : Bindings.VenueMode → String
  | .all => Abi.quote
  | .single => Abi.quoteVenue
  | .selected => Abi.quoteSelectedVenues

section Values

variable (debug : Value → String)

def asU256 : Value → Except Bindings.Error Nat
  | .uint v => .ok v
  | other => .error (.abi s!"expected uint, got {debug other}")

def asAddress : Value → Except Bindings.Error Address
  | .address v => .ok v
  | other => .error (.abi s!"expected address, got {debug other}")

def asAddressArray : Value → Except Bindings.Error (List Address)
  | .array values => values.mapM (asAddress debug)
  | other => .error (.abi s!"expected address[], got {debug other}")

/-- `values[i]`, which panics past the end. -/
def indexed (values : List Value) (i : Nat) : Except Bindings.Error Value :=
  match values[i]? with
  | some value => .ok value
  | none => .error (.abi "index out of bounds")

end Values

variable {D σ : Type} (router : Bindings.PropAmmRouter D CallOverrides OverridesSnapshot σ)
  (debug : Value → String)

def callRouter (signature : String) (args : List Value) (overrides : CallOverrides) :
    Except Bindings.Error Bytes := do
  let calldata ← encode router.client signature args
  (router.client.ethCall router.address calldata overrides).mapError
    (decodeRevert router.client.codec debug)

def getWhitelistedVenues : Except Bindings.Error (List Address) := do
  let data ← callRouter router debug Abi.getWhitelistedVenues [] .default
  asAddressArray debug (← indexed (← decodeValues router.client.codec "address[]".toList data) 0)

def callOverrides (order : HashOrder) (skipBebopDefault : Bool) (snapshot : OverridesSnapshot) :
    CallOverrides :=
  let state := toStateOverride order snapshot ⟨none, skipBebopDefault⟩
  if state.entries.isEmpty then .default
  else ⟨some state, snapshot.blockNumber, snapshot.blockTimeSecs⟩

def resolveOverrides (order : HashOrder) (opts : Bindings.QuoteOptions OverridesSnapshot σ) :
    Bindings.SdkM σ CallOverrides :=
  router.resolveWith .default
    (fun snapshot => .ok (callOverrides order (!opts.bebopDefault) snapshot)) opts

/-- The loop over the results. -/
def collectQuotes (codec : Codec D) : List (Address × Except Bindings.Error Bytes) →
    Except Bindings.Error (List Bindings.Quote)
  | [] => .ok []
  | (venue, .ok data) :: results => do
    let values ← decodeValues codec "uint256,address".toList data
    let amountOut ← asU256 debug (← indexed values 0)
    let quotes ← collectQuotes codec results
    .ok (if amountOut = 0 then quotes else ⟨amountOut, venue⟩ :: quotes)
  | (_, .error (.revert _ _)) :: results => collectQuotes codec results
  | (_, .error e) :: _ => .error e

def getQuotesWith (order : HashOrder) (tokenIn tokenOut : Address) (amountIn : Nat)
    (opts : Bindings.QuoteOptions OverridesSnapshot σ) : Bindings.SdkM σ (List Bindings.Quote) := do
  let venues ← match opts.venues with
    | some venues => pure venues
    | none => lift (getWhitelistedVenues router debug)
  let overrides ← resolveOverrides router order opts
  let results := venues.map fun venue => (venue, callRouter router debug Abi.quoteVenue
    [.address venue, .address tokenIn, .address tokenOut, .uint amountIn] overrides)
  let quotes ← lift (collectQuotes debug router.client.codec results)
  return Bindings.sortQuotes quotes

end Router

end PropAMM.Rust

/-! ## Python -/

namespace PropAMM.Python.Router

open PropAMM.Abi Bindings Txn

abbrev CallOverrides := Bindings.CallOverrides Overrides.StateOverride Int

def blockTimeSecs (snapshot : Overrides.OverridesSnapshot) : Option Int :=
  match snapshot.slot with
  | some slot => some (beaconGenesisTs + slot * secsPerSlot)
  | none => snapshot.timestampNs.map fun ns => ns / 1000000000

variable {D σ : Type} (lib : Overrides.Library) (debug : Value → String)
  (router : PropAmmRouter D CallOverrides Overrides.OverridesSnapshot σ)

/-- Flattening may raise. -/
def callOverrides (bebopDefault : Bool) (snapshot : Overrides.OverridesSnapshot) :
    Except Error CallOverrides :=
  match lib.toStateOverride snapshot ⟨none, bebopDefault⟩ with
  | none => .error (.overrides "state override")
  | some state =>
    .ok (if state.isEmpty then .default
      else ⟨some state, snapshot.blockNumber, blockTimeSecs snapshot⟩)

def resolveOverrides (opts : QuoteOptions Overrides.OverridesSnapshot σ) : SdkM σ CallOverrides :=
  router.resolveWith .default (callOverrides lib opts.bebopDefault) opts

/-- `call_with_overrides`, with the revert named. -/
def namedCall (data : D) (overrides : CallOverrides) : Except Error Bytes :=
  match router.client.ethCall router.address data overrides with
  | .ok raw => .ok raw
  | .error e => match namedRevert router.client.codec debug e with
    | .ok named => .error named
    | .error raised => .error (.abi raised)

def quote (tokenIn tokenOut : Address) (amountIn : Nat)
    (opts : QuoteOptions Overrides.OverridesSnapshot σ) : SdkM σ Quote := do
  let (mode, venueArgs) ← lift (venueDispatch opts.venues)
  let data ← lift (router.client.encodeFunctionData (quoteName mode)
    (venueArgs ++ [.address tokenIn, .address tokenOut, .uint amountIn]))
  let overrides ← resolveOverrides lib router opts
  let raw ← lift (namedCall debug router data overrides)
  lift (decodeQuote router.client.codec raw)

/-- An empty list counts as none given. -/
def getQuotes (completed : Completion) (tokenIn tokenOut : Address) (amountIn : Nat)
    (opts : QuoteOptions Overrides.OverridesSnapshot σ) : SdkM σ (List Quote) := do
  let venues ← match opts.venues with
    | some (venue :: venues) => pure (venue :: venues)
    | _ => lift (router.readWhitelistedVenues .default)
  router.quoteEach completed (quote lib debug router tokenIn tokenOut amountIn) opts venues

end PropAMM.Python.Router

/-! ## TypeScript -/

namespace PropAMM.TypeScript.Router

open PropAMM.Abi Bindings Txn

abbrev CallOverrides := Bindings.CallOverrides Overrides.StateOverride Int

def blockTimeSecs (snapshot : Overrides.OverridesSnapshot) : Option Int :=
  match snapshot.slot with
  | some slot => some (beaconGenesisTs + slot * secsPerSlot)
  | none => snapshot.timestampNs.map fun ns => ns.tdiv 1000000000

variable {D σ : Type} (lib : Overrides.Library)
  (router : PropAmmRouter D CallOverrides Overrides.OverridesSnapshot σ)

/-- Flattening may raise. -/
def callOverrides (bebopDefault : Bool) (snapshot : Overrides.OverridesSnapshot) :
    Except Error CallOverrides :=
  match lib.toStateOverride snapshot ⟨none, bebopDefault⟩ with
  | none => .error (.overrides "state override")
  | some state =>
    .ok (if state.isEmpty then .default
      else ⟨some state, snapshot.blockNumber, blockTimeSecs snapshot⟩)

def resolveOverrides (opts : QuoteOptions Overrides.OverridesSnapshot σ) : SdkM σ CallOverrides :=
  router.resolveWith .default (callOverrides lib opts.bebopDefault) opts

/-- `callRouter`, with the result still encoded. -/
def callRouter (functionName : String) (args : List Value) (overrides : CallOverrides) :
    Except Error Bytes := do
  let data ← router.client.encodeFunctionData functionName args
  router.client.ethCall router.address data overrides

def quote (tokenIn tokenOut : Address) (amountIn : Nat)
    (opts : QuoteOptions Overrides.OverridesSnapshot σ) : SdkM σ Quote := do
  let (mode, venueArgs) ← lift (venueDispatch opts.venues)
  let overrides ← resolveOverrides lib router opts
  let raw ← lift (callRouter router (quoteName mode)
    (venueArgs ++ [.address tokenIn, .address tokenOut, .uint amountIn]) overrides)
  lift (decodeQuote router.client.codec raw)

def getQuotes (completed : Completion) (tokenIn tokenOut : Address) (amountIn : Nat)
    (opts : QuoteOptions Overrides.OverridesSnapshot σ) : SdkM σ (List Quote) := do
  let venues ← match opts.venues with
    | some venues => pure venues
    | none => lift (router.readWhitelistedVenues .default)
  router.quoteEach completed (quote lib router tokenIn tokenOut amountIn) opts venues

end PropAMM.TypeScript.Router

/-! ## What the router answers -/

namespace PropAMM

open Txn

section Ranges

variable {x : Ctx} {tokenIn tokenOut : Address} {amount : Nat}

theorem uintOf_fits {ret : List Word} {n : Nat} (decoded : uintOf ret = some n) : n < 2 ^ 256 := by
  cases ret with
  | nil => cases decoded
  | cons w ret =>
      cases decoded
      exact w.isLt

theorem quoterOutOf_fits {ret : List Word} {n : Nat} (decoded : quoterOutOf ret = some n) :
    n < 2 ^ 256 := by
  unfold quoterOutOf at decoded
  split at decoded
  · split at decoded
    · cases decoded
      exact BitVec.isLt _
    · cases decoded
  · cases decoded

theorem quoteVenue_fits (v : Address) (s : ChainState) :
    Ensures (quoteVenue x v tokenIn tokenOut amount) s fun n _ => n < 2 ^ 256 := by
  have called : ∀ (c : ExtCall) (dec : List Word → Option Nat),
      (∀ ret n, dec ret = some n → n < 2 ^ 256) →
      Ensures (do let ret ← callExternal x c; decode (dec ret)) s fun n _ => n < 2 ^ 256 := by
    intro c dec fits
    refine (wp_bind _).mpr (wp_mono (ensures_iff.mpr fun _ _ _ => trivial) ?_ fun _ _ _ => trivial)
    intro ret s' _
    exact wp_decode.mpr ⟨fun n decoded => fits ret n decoded, fun _ => trivial⟩
  unfold quoteVenue
  by_cases fallback : v = x.storage.fallbackSwapRouter
  · simp only [if_pos fallback]
    exact called _ _ fun _ _ => quoterOutOf_fits
  · simp only [if_neg fallback]
    exact called _ _ fun _ _ => uintOf_fits

theorem quoteVenueUnchecked_fits (v : Address) (s : ChainState) :
    Ensures (quoteVenueUnchecked x v tokenIn tokenOut amount) s fun n _ => n < 2 ^ 256 := by
  simp only [quoteVenueUnchecked, Ensures, wp_bind, wp_require]
  exact ⟨fun _ => quoteVenue_fits v s, fun _ => trivial⟩

theorem quoteVenueV1_fits (v : Address) (s : ChainState) :
    Ensures (quoteVenueV1 x v tokenIn tokenOut amount) s fun r _ => r.1 < 2 ^ 256 := by
  simp only [quoteVenueV1, Ensures, wp_bind, wp_require, wp_pure]
  exact ⟨fun _ => quoteVenue_fits v s, fun _ => trivial⟩

theorem keepBest_fits {m n : Nat} (u v : Address) (fits : m < 2 ^ 256) (other : n < 2 ^ 256) :
    (keepBest (m, u) n v).1 < 2 ^ 256 := by
  unfold keepBest
  split
  · exact other
  · exact fits

theorem pickBestPropAMMLoop_fits (rest : List Address) {best : Nat × Address}
    (fits : best.1 < 2 ^ 256) (s : ChainState) :
    Ensures (pickBestPropAMMLoop x tokenIn tokenOut amount rest best) s fun r _ =>
      r.1 < 2 ^ 256 := by
  induction rest generalizing best s with
  | nil => exact fits
  | cons v rest ih =>
      simp only [pickBestPropAMMLoop, Ensures, wp_bind, wp_attempt]
      refine wp_mono (quoteVenueUnchecked_fits v s) ?_ ?_
      · intro n s' small
        exact ih (keepBest_fits _ v fits small) s'
      · intro e s' _
        exact ih fits _

theorem pickBestVenueFromLoop_fits (rest : List Address) {best : Nat × Address}
    (fits : best.1 < 2 ^ 256) (s : ChainState) :
    Ensures (pickBestVenueFromLoop x tokenIn tokenOut amount rest best) s fun r _ =>
      r.1 < 2 ^ 256 := by
  induction rest generalizing best s with
  | nil => exact fits
  | cons v rest ih =>
      simp only [pickBestVenueFromLoop, Ensures, wp_bind, wp_attempt]
      refine wp_mono (quoteVenueV1_fits v s) ?_ ?_
      · intro r s' small
        exact ih (keepBest_fits _ v fits small) s'
      · intro e s' _
        exact ih fits _

/-- What a quote returns is a `uint256`. -/
theorem Abi.QuoteCall.run_fits (call : Abi.QuoteCall) (s : ChainState) :
    Ensures (call.run x) s fun r _ => r.1 < 2 ^ 256 := by
  have zero : ((0, 0) : Nat × Address).1 < 2 ^ 256 := by decide
  cases call with
  | quoteV1 tokenIn tokenOut amount =>
      simp only [Abi.QuoteCall.run, PropAMM.quoteV1, pickBestVenue, Ensures, wp_bind,
        wp_require, wp_pure]
      refine wp_mono (pickBestPropAMMLoop_fits _ zero s) ?_ fun _ _ _ => trivial
      intro best s' fits
      refine wp_attempt.mpr (wp_mono (quoteVenueUnchecked_fits _ s') ?_ ?_)
      · intro n s'' small
        exact ⟨fun _ => keepBest_fits _ _ fits small, fun _ => trivial⟩
      · intro e s'' _
        exact ⟨fun _ => fits, fun _ => trivial⟩
  | quoteVenueV1 venue tokenIn tokenOut amount => exact quoteVenueV1_fits venue s
  | quoteSelectedVenuesV1 venues tokenIn tokenOut amountIn =>
      simp only [Abi.QuoteCall.run, PropAMM.quoteSelectedVenuesV1, Ensures, wp_bind,
        wp_require, wp_pure]
      refine wp_mono (pickBestVenueFromLoop_fits _ zero s) ?_ fun _ _ _ => trivial
      intro best s' fits
      exact ⟨fun _ => fits, fun _ => trivial⟩

end Ranges

end PropAMM

/-! ## What the SDKs make of it -/

namespace PropAMM.Bindings

open PropAMM.Abi Txn FirstMax

/-- The quote a venue restriction describes. -/
def asked (venues : Option (List Address)) (tokenIn tokenOut : Address) (amountIn : Nat) :
    QuoteCall :=
  match venues with
  | none => .quoteV1 tokenIn tokenOut amountIn
  | some [venue] => .quoteVenueV1 venue tokenIn tokenOut amountIn
  | some venues => .quoteSelectedVenuesV1 venues tokenIn tokenOut amountIn

def VenueMode.quoteFunction : VenueMode → RouterFunction
  | all => .quoteV1
  | single => .quoteVenueV1
  | selected => .quoteSelectedVenuesV1

def Error.IsRevert : Error → Prop
  | revert _ _ => True
  | _ => False

section Node

variable {D O : Type}

/-- A node that runs the router's quotes on `x`, under these overrides. -/
structure Client.Simulates (client : Client D O) (target : Address) (x : Ctx) (s : ChainState)
    (overrides : O) : Prop where
  answers : ∀ data call amountOut venue s', client.codec.called data = some (.quote call) →
    call.run x s = .ok (amountOut, venue) s' →
      client.ethCall target data overrides =
        .ok (client.codec.encodeReturned [.uint amountOut, .address venue])
  reverts : ∀ data call e s', client.codec.called data = some (.quote call) →
    call.run x s = .error e s' →
    ∃ message payload, client.ethCall target data overrides = .error (.revert message payload)

/-- It reads the router's whitelist. -/
def Client.Lists (client : Client D O) (target : Address) (st : RouterStorage) (noOverrides : O) :
    Prop :=
  ∀ data, client.codec.called data = some .getWhitelistedVenues →
    client.ethCall target data noOverrides =
      .ok (client.codec.encodeReturned [addressArray st.getWhitelistedVenues])

/-- What comes back for a quote is what the router's run comes to. -/
def Answered (call : QuoteCall) (x : Ctx) (s : ChainState) (reply : Except Error Quote) : Prop :=
  match call.run x s with
  | .ok (amountOut, venue) _ => reply = .ok ⟨amountOut, venue⟩
  | .error _ _ => ∃ e, reply = .error e ∧ e.IsRevert

variable {codec : Codec D} (faithful : codec.Faithful) (tokenIn tokenOut : Address) {amountIn : Nat}
  (fits : UintFits amountIn)

/-- Calldata for the quote of a venue restriction. -/
structure Asks (codec : Codec D) (venues : Option (List Address)) (tokenIn tokenOut : Address)
    (amountIn : Nat) (data : D) : Prop where
  encoded : codec.encodeCalldata (VenueMode.of venues).quoteFunction.signature
    (leading venues ++ [.address tokenIn, .address tokenOut, .uint amountIn]) = .ok data
  called : codec.called data = some (.quote (asked venues tokenIn tokenOut amountIn))

include faithful fits in
theorem exists_asks (venues : Option (List Address)) :
    ∃ data, Asks codec venues tokenIn tokenOut amountIn data := by
  have range : (RouterCall.quote (asked venues tokenIn tokenOut amountIn)).Fits := by
    match venues with
    | none => exact fits
    | some [] => exact fits
    | some [_] => exact fits
    | some (_ :: _ :: _) => exact fits
  have written : (RouterCall.quote (asked venues tokenIn tokenOut amountIn)).function =
      (VenueMode.of venues).quoteFunction ∧
      (RouterCall.quote (asked venues tokenIn tokenOut amountIn)).values =
        leading venues ++ [.address tokenIn, .address tokenOut, .uint amountIn] := by
    match venues with
    | none => exact ⟨rfl, rfl⟩
    | some [] => exact ⟨rfl, rfl⟩
    | some [_] => exact ⟨rfl, rfl⟩
    | some (_ :: _ :: _) => exact ⟨rfl, rfl⟩
  obtain ⟨data, encoded, called⟩ := faithful.encoded range
  rw [written.1, written.2] at encoded
  exact ⟨data, encoded, called⟩

theorem decoded_returned (faithful : codec.Faithful) {call : QuoteCall} {x : Ctx}
    {s s' : ChainState} {amountOut : Nat} {venue : Address}
    (run : call.run x s = .ok (amountOut, venue) s') :
    codec.decodeReturned ["uint256", "address"]
      (codec.encodeReturned [.uint amountOut, .address venue]) =
      .ok [.uint amountOut, .address venue] := by
  have small := wp_ok (call.run_fits s) run
  exact faithful.returned _ _ (.cons (.uint256 amountOut small) (.cons (.address venue) .nil))

end Node

/-! ## One quote -/

section Rust

open Rust.Router

variable {D σ : Type} {router : PropAmmRouter D Rust.Router.CallOverrides Rust.OverridesSnapshot σ}
  {debug : Value → String} {overrides : Rust.Router.CallOverrides} {x : Ctx} {s : ChainState}
  {tokenIn tokenOut : Address} {amountIn : Nat}

theorem decodeRevert_revert (codec : Codec D) (debug : Value → String) (message : String)
    (payload : Option Bytes) :
    ∃ message', decodeRevert codec debug (.revert message payload) = .revert message' payload := by
  cases payload with
  | none => exact ⟨message, rfl⟩
  | some payload =>
      unfold decodeRevert
      cases named : decodeError codec debug payload with
      | none => exact ⟨message, by simp only [named]⟩
      | some text => exact ⟨_, by simp only [named]; rfl⟩

theorem rust_quoteSelector (mode : VenueMode) :
    quoteSelector mode = mode.quoteFunction.signature := by
  cases mode <;> decide +kernel

/-- The reply to calldata of a quote, and its decoding. -/
theorem rust_callRouter (debug : Value → String) (faithful : router.client.codec.Faithful)
    (simulates : router.client.Simulates router.address x s overrides)
    {venues : Option (List Address)} {data : D}
    (asks : Asks router.client.codec venues tokenIn tokenOut amountIn data) :
    match (asked venues tokenIn tokenOut amountIn).run x s with
    | .ok (amountOut, venue) _ => ∃ raw,
        Rust.Router.callRouter router debug (quoteSelector (VenueMode.of venues))
          (leading venues ++ [.address tokenIn, .address tokenOut, .uint amountIn]) overrides =
            .ok raw ∧
        decodeValues router.client.codec "uint256,address".toList raw =
          .ok [.uint amountOut, .address venue]
    | .error _ _ => ∃ message payload,
        Rust.Router.callRouter router debug (quoteSelector (VenueMode.of venues))
          (leading venues ++ [.address tokenIn, .address tokenOut, .uint amountIn]) overrides =
            .error (.revert message payload) := by
  have written : Rust.Router.encode router.client (quoteSelector (VenueMode.of venues))
      (leading venues ++ [.address tokenIn, .address tokenOut, .uint amountIn]) = .ok data := by
    rw [Rust.Router.encode, rust_quoteSelector, asks.encoded]
    rfl
  have types : splitTypes "uint256,address".toList = ["uint256", "address"] := by decide +kernel
  unfold Rust.Router.callRouter
  simp only [written, bind, Except.bind]
  cases run : (asked venues tokenIn tokenOut amountIn).run x s with
  | ok best s' =>
      obtain ⟨amountOut, venue⟩ := best
      refine ⟨_, by rw [simulates.answers data _ _ _ _ asks.called run]; rfl, ?_⟩
      rw [decodeValues, types, decoded_returned faithful run]
      rfl
  | error e s' =>
      obtain ⟨message, payload, reply⟩ := simulates.reverts data _ _ _ asks.called run
      obtain ⟨message', named⟩ := decodeRevert_revert router.client.codec debug message payload
      refine ⟨message', payload, ?_⟩
      rw [reply, Except.mapError, named]

end Rust

section Python

open Python.Router

variable {D σ : Type} {lib : Python.Overrides.Library} {debug : Value → String}
  {router : PropAmmRouter D Python.Router.CallOverrides Python.Overrides.OverridesSnapshot σ}
  {overrides : Python.Router.CallOverrides} {x : Ctx} {s : ChainState} {tokenIn tokenOut : Address}
  {amountIn : Nat}

/-- The revert of a quote names an error that its payload does not decode as. -/
def Spoiled {O : Type} (client : Client D O) (debug : Value → String) (target : Address)
    (overrides : O) (venues : Option (List Address)) (tokenIn tokenOut : Address) (amountIn : Nat) :
    Prop :=
  ∃ data message payload e, Asks client.codec venues tokenIn tokenOut amountIn data ∧
    client.ethCall target data overrides = .error (.revert message (some payload)) ∧
      nameError client.codec debug payload = .error e

/-- Encoding by name writes the same calldata. -/
theorem encodeFunctionData_asks {O : Type} {client : Client D O} {venues : Option (List Address)}
    {data : D} (asks : Asks client.codec venues tokenIn tokenOut amountIn data) :
    client.encodeFunctionData (quoteName (VenueMode.of venues))
      (leading venues ++ [.address tokenIn, .address tokenOut, .uint amountIn]) = .ok data := by
  have name : quoteName (VenueMode.of venues) = (VenueMode.of venues).quoteFunction.name := by
    cases VenueMode.of venues <;> rfl
  rw [Client.encodeFunctionData, name, RouterFunction.ofName?_name]
  simp only [asks.encoded]
  rfl

/-- Python's `quote` comes to what the router's run does, but for a spoiled revert. -/
theorem python_quote (faithful : router.client.codec.Faithful)
    (simulates : router.client.Simulates router.address x s overrides) (fits : UintFits amountIn)
    (opts : QuoteOptions Python.Overrides.OverridesSnapshot σ) {before after : σ}
    (listed : opts.venues ≠ some [])
    (resolved : resolveOverrides lib router opts before = .ok overrides after) :
    ∃ reply, Python.Router.quote lib debug router tokenIn tokenOut amountIn opts before =
      lift reply after ∧
      (¬ Spoiled router.client debug router.address overrides opts.venues tokenIn
        tokenOut amountIn →
        Answered (asked opts.venues tokenIn tokenOut amountIn) x s reply) ∧
      (Spoiled router.client debug router.address overrides opts.venues tokenIn tokenOut amountIn →
        ∃ e, reply = .error (.abi e)) := by
  obtain ⟨data, asks⟩ := exists_asks faithful tokenIn tokenOut fits opts.venues
  have dispatched : lift (Python.Router.venueDispatch opts.venues) before =
      .ok (VenueMode.of opts.venues, leading opts.venues) before := by
    rw [Python.Router.venueDispatch, venueDispatch_eq, if_neg listed]
    rfl
  have written := encodeFunctionData_asks asks
  have same : ∀ data', Asks router.client.codec opts.venues tokenIn tokenOut amountIn data' →
      data' = data := by
    intro data' other
    have both := other.encoded.symm.trans asks.encoded
    cases both
    rfl
  unfold Python.Router.quote Answered
  rw [bind_of_ok dispatched]
  have encoded : lift (Except.ok data) before = (.ok data before : EStateM.Result Error σ D) := rfl
  simp only [written, bind_of_ok encoded, bind_of_ok resolved]
  cases run : (asked opts.venues tokenIn tokenOut amountIn).run x s with
  | ok best s' =>
      obtain ⟨amountOut, venue⟩ := best
      have reply := simulates.answers data _ _ _ _ asks.called run
      refine ⟨.ok ⟨amountOut, venue⟩, ?_, fun _ => rfl, ?_⟩
      · rw [namedCall, reply]
        show lift (decodeQuote _ _) after = _
        rw [decodeQuote, decoded_returned faithful run]
      · rintro ⟨data', message, payload, e, other, reverted, _⟩
        rw [same data' other, reply] at reverted
        cases reverted
  | error e s' =>
      obtain ⟨message, payload, reply⟩ := simulates.reverts data _ _ _ asks.called run
      rw [namedCall, reply]
      cases payload with
      | none =>
          refine ⟨.error (.revert message none), rfl, fun _ => ⟨_, rfl, trivial⟩, ?_⟩
          rintro ⟨data', message', payload, e, other, reverted, _⟩
          rw [same data' other, reply] at reverted
          cases reverted
      | some payload =>
          cases named : nameError router.client.codec debug payload with
          | error e =>
              refine ⟨.error (.abi e), ?_, fun clean => ?_, fun _ => ⟨e, rfl⟩⟩
              · simp only [namedRevert, named, bind, Except.bind]
                rfl
              · exact absurd ⟨data, message, payload, e, asks, reply, named⟩ clean
          | ok name =>
              have kept : ¬ Spoiled router.client debug router.address overrides opts.venues
                  tokenIn tokenOut amountIn := by
                rintro ⟨data', message', payload', e, other, reverted, failed⟩
                rw [same data' other, reply] at reverted
                cases reverted
                rw [named] at failed
                cases failed
              cases name with
              | none =>
                  refine ⟨.error (.revert message (some payload)), ?_, fun _ => ⟨_, rfl, trivial⟩,
                    fun spoiled => absurd spoiled kept⟩
                  simp only [namedRevert, named, bind, Except.bind]
                  rfl
              | some name =>
                  refine ⟨.error (.revert name (some payload)), ?_, fun _ => ⟨_, rfl, trivial⟩,
                    fun spoiled => absurd spoiled kept⟩
                  simp only [namedRevert, named, bind, Except.bind]
                  rfl

end Python

section TypeScript

open TypeScript.Router

variable {D σ : Type} {lib : TypeScript.Overrides.Library}
  {router : PropAmmRouter D TypeScript.Router.CallOverrides TypeScript.Overrides.OverridesSnapshot
    σ}
  {overrides : TypeScript.Router.CallOverrides} {x : Ctx} {s : ChainState}
  {tokenIn tokenOut : Address} {amountIn : Nat}

/-- TypeScript's `quote` comes to what the router's run does. -/
theorem typescript_quote (faithful : router.client.codec.Faithful)
    (simulates : router.client.Simulates router.address x s overrides) (fits : UintFits amountIn)
    (opts : QuoteOptions TypeScript.Overrides.OverridesSnapshot σ) {before after : σ}
    (listed : opts.venues ≠ some [])
    (resolved : resolveOverrides lib router opts before = .ok overrides after) :
    ∃ reply, TypeScript.Router.quote lib router tokenIn tokenOut amountIn opts before =
      lift reply after ∧
      Answered (asked opts.venues tokenIn tokenOut amountIn) x s reply := by
  obtain ⟨data, asks⟩ := exists_asks faithful tokenIn tokenOut fits opts.venues
  have dispatched : lift (TypeScript.Router.venueDispatch opts.venues) before =
      .ok (VenueMode.of opts.venues, leading opts.venues) before := by
    rw [TypeScript.Router.venueDispatch, venueDispatch_eq, if_neg listed]
    rfl
  have written := encodeFunctionData_asks asks
  unfold TypeScript.Router.quote TypeScript.Router.callRouter Answered
  rw [bind_of_ok dispatched]
  simp only [written, bind_of_ok resolved]
  cases run : (asked opts.venues tokenIn tokenOut amountIn).run x s with
  | ok best s' =>
      obtain ⟨amountOut, venue⟩ := best
      refine ⟨.ok ⟨amountOut, venue⟩, ?_, rfl⟩
      simp only [bind, Except.bind, simulates.answers data _ _ _ _ asks.called run]
      show lift (decodeQuote _ _) after = _
      rw [decodeQuote, decoded_returned faithful run]
  | error e s' =>
      obtain ⟨message, payload, reply⟩ := simulates.reverts data _ _ _ asks.called run
      refine ⟨.error (.revert message payload), ?_, _, rfl, trivial⟩
      simp only [bind, Except.bind, reply]
      rfl

end TypeScript

/-! ## Rankings -/

def toQuote (r : Nat × Address) : Quote := ⟨r.1, r.2⟩

theorem sortQuotes_map (l : List (Nat × Address)) :
    sortQuotes (l.map toQuote) = (l.mergeSort noBetter).map toQuote := by
  unfold sortQuotes
  rw [List.map_mergeSort (s := fun a b : Quote => decide (b.amountOut ≤ a.amountOut))]
  intro a _ b _
  rfl

/-- Dropping what is not worth listing and sorting ranks. -/
theorem rankQuotes_eq (q : Address → Option Nat) (venues : List Address) :
    rankQuotes (venues.map fun v => (q v).map fun n => ⟨n, v⟩) = (ranked q venues).map toQuote := by
  have kept : ((venues.map fun v => (q v).map fun n => (⟨n, v⟩ : Quote)).filterMap id).filter
      (fun quote => quote.amountOut > 0) = (venues.filterMap (worth q)).map toQuote := by
    induction venues with
    | nil => rfl
    | cons v venues ih =>
        rw [List.map_cons]
        cases value : q v with
        | none =>
            have nothing : worth q v = none := by rw [worth, value]; rfl
            rw [Option.map_none, List.filterMap_cons_none rfl, List.filterMap_cons_none nothing]
            exact ih
        | some n =>
            rw [Option.map_some,
              List.filterMap_cons_some (f := id) (a := some (⟨n, v⟩ : Quote)) rfl]
            by_cases positive : 0 < n
            · have listed : worth q v = some (n, v) := worth_eq_some.mpr ⟨rfl, value, positive⟩
              rw [List.filter_cons_of_pos (by simpa using positive),
                List.filterMap_cons_some listed, ih]
              rfl
            · have nothing : worth q v = none := by
                have zero : n = 0 := by omega
                rw [worth, value, zero]
                rfl
              rw [List.filter_cons_of_neg (by simpa using positive),
                List.filterMap_cons_none nothing, ih]
  rw [rankQuotes, kept, sortQuotes_map]
  rfl

/-! ## Awaiting -/

section Gather

variable {completed : Completion} {calls : List (Except Error (Option Quote))}

theorem gather_ok (all : ∀ call ∈ calls, ∃ quote, call = .ok quote) :
    gather completed calls = .ok (calls.filterMap Except.toOption) := by
  have none : ((completed calls).1.findSome? fun call => match call with
      | .error e => some e
      | .ok _ => none) = none := by
    apply List.findSome?_eq_none_iff.mpr
    intro call member
    obtain ⟨quote, rfl⟩ := all call ((completed calls).2.mem_iff.mp member)
    rfl
  rw [gather, none]

/-- A failure is raised, the first to come in. -/
theorem gather_error (completed : Completion) {P : Error → Prop} (all : ∀ e, .error e ∈ calls → P e)
    (failed : ∃ e, .error e ∈ calls) : ∃ e, gather completed calls = .error e ∧ P e := by
  cases first : (completed calls).1.findSome? fun call => match call with
      | .error e => some e
      | .ok _ => none with
  | none =>
      obtain ⟨e, member⟩ := failed
      have missed := List.findSome?_eq_none_iff.mp first _ ((completed calls).2.mem_iff.mpr member)
      cases missed
  | some e =>
      obtain ⟨call, member, shape⟩ := List.exists_of_findSome?_eq_some first
      cases call with
      | ok quote => cases shape
      | error e' =>
          cases shape
          refine ⟨e, ?_, all e ((completed calls).2.mem_iff.mp member)⟩
          rw [gather, first]

end Gather

/-! ## Venues -/

section Listing

variable {D σ O S : Type} {router : PropAmmRouter D O S σ} {st : RouterStorage} {noOverrides : O}

/-- A whitelist names no address twice, so it is not long. -/
theorem whitelist_fits (st : RouterStorage) : UintFits st.getWhitelistedVenues.length := by
  have once : (st.getWhitelistedVenues.map BitVec.toNat).Nodup :=
    List.Nodup.map (fun a b => BitVec.eq_of_toNat_eq) st.whitelistedVenues.nodup
  have within : st.getWhitelistedVenues.map BitVec.toNat ⊆ List.range (2 ^ 160) := by
    intro n member
    obtain ⟨a, _, rfl⟩ := List.mem_map.mp member
    exact List.mem_range.mpr a.isLt
  have short := (once.subperm within).length_le
  rw [List.length_map, List.length_range] at short
  exact Nat.lt_of_le_of_lt short (by decide)

theorem readWhitelistedVenues_ok (faithful : router.client.codec.Faithful)
    (lists : router.client.Lists router.address st noOverrides) :
    router.readWhitelistedVenues noOverrides = .ok st.getWhitelistedVenues := by
  obtain ⟨data, encoded, called⟩ :=
    faithful.encoded (show RouterCall.getWhitelistedVenues.Fits from trivial)
  have encoded : router.client.codec.encodeCalldata RouterFunction.getWhitelistedVenues.signature
      [] = .ok data :=
    encoded
  have named := RouterFunction.ofName?_name .getWhitelistedVenues
  have written : router.client.encodeFunctionData "getWhitelistedVenues" [] = .ok data := by
    rw [Client.encodeFunctionData]
    rw [show RouterFunction.ofName? "getWhitelistedVenues" = some .getWhitelistedVenues from named]
    simp only [encoded]
    rfl
  unfold PropAmmRouter.readWhitelistedVenues
  simp only [written, bind, Except.bind, lists data called, faithful.listed _ (whitelist_fits st),
    addresses?_addressArray]

end Listing

theorem rust_getWhitelistedVenues {D σ : Type}
    {router : PropAmmRouter D Rust.Router.CallOverrides Rust.OverridesSnapshot σ}
    (debug : Value → String) {st : RouterStorage} (faithful : router.client.codec.Faithful)
    (lists : router.client.Lists router.address st .default) :
    Rust.Router.getWhitelistedVenues router debug = .ok st.getWhitelistedVenues := by
  obtain ⟨data, encoded, called⟩ :=
    faithful.encoded (show RouterCall.getWhitelistedVenues.Fits from trivial)
  have signature : Rust.Router.Abi.getWhitelistedVenues =
      RouterFunction.getWhitelistedVenues.signature := by
    decide +kernel
  have written : Rust.Router.encode router.client Rust.Router.Abi.getWhitelistedVenues [] =
      .ok data := by
    rw [Rust.Router.encode, signature]
    simp only [show router.client.codec.encodeCalldata RouterFunction.getWhitelistedVenues.signature
      [] = .ok data from encoded]
    rfl
  have types : splitTypes "address[]".toList = ["address[]"] := by decide +kernel
  have items : ∀ venues : List Address,
      (venues.map Value.address).mapM (Rust.Router.asAddress debug) = .ok venues := by
    intro venues
    induction venues with
    | nil => rfl
    | cons v venues ih =>
        rw [List.map_cons, List.mapM_cons, ih]
        rfl
  unfold Rust.Router.getWhitelistedVenues Rust.Router.callRouter
  simp only [written, bind, Except.bind, lists data called, Except.mapError,
    Rust.Router.decodeValues, types, faithful.listed _ (whitelist_fits st)]
  exact items st.getWhitelistedVenues

section Ranked

variable {x : Ctx} {s : ChainState} {tokenIn tokenOut : Address} {amountIn : Nat}
  {q : Address → Option Nat}

theorem wp_quoteVenueV1 (fixed : FixedQuotes x tokenIn tokenOut amountIn q) (v : Address) :
    wp (quoteVenueV1 x v tokenIn tokenOut amountIn) s
      (fun r _ => r.2 = v ∧ gated x.storage q v = some r.1)
      (fun _ _ => gated x.storage q v = none) := by
  simp only [quoteVenueV1, wp_bind, wp_require, wp_pure]
  unfold gated
  constructor
  · intro listed
    rw [if_pos listed]
    refine wp_mono (fixed.wp_quoteVenue v) ?_ fun _ _ nothing => nothing
    intro n s' value
    exact ⟨trivial, value⟩
  · intro unlisted
    rw [if_neg unlisted]

/-- A venue's own quote is its gated one. -/
theorem answered_gated (fixed : FixedQuotes x tokenIn tokenOut amountIn q) {v : Address}
    {reply : Except Error Quote}
    (answered : Answered (asked (some [v]) tokenIn tokenOut amountIn) x s reply) :
    orNone reply = .ok ((gated x.storage q v).map fun n => ⟨n, v⟩) := by
  have quoted := wp_quoteVenueV1 (s := s) fixed v
  unfold Answered at answered
  change match quoteVenueV1 x v tokenIn tokenOut amountIn s with
    | .ok (amountOut, venue) _ => reply = .ok ⟨amountOut, venue⟩
    | .error _ _ => ∃ e, reply = .error e ∧ e.IsRevert at answered
  cases run : quoteVenueV1 x v tokenIn tokenOut amountIn s with
  | ok best s' =>
      obtain ⟨amountOut, venue⟩ := best
      obtain ⟨same, value⟩ := wp_ok quoted run
      rw [run] at answered
      rw [value, answered, ← same]
      rfl
  | error e s' =>
      have nothing := wp_error quoted run
      rw [run] at answered
      obtain ⟨reverted, rfl, shape⟩ := answered
      rw [nothing]
      cases reverted with
      | revert message payload => rfl
      | _ => exact shape.elim

theorem rust_collectQuotes {D σ : Type}
    {router : PropAmmRouter D Rust.Router.CallOverrides Rust.OverridesSnapshot σ}
    (debug : Value → String) {overrides : Rust.Router.CallOverrides}
    (faithful : router.client.codec.Faithful)
    (simulates : router.client.Simulates router.address x s overrides) (fits : UintFits amountIn)
    (fixed : FixedQuotes x tokenIn tokenOut amountIn q) (venues : List Address) :
    Rust.Router.collectQuotes debug router.client.codec (venues.map fun v => (v,
      Rust.Router.callRouter router debug Rust.Router.Abi.quoteVenue
        [.address v, .address tokenIn, .address tokenOut, .uint amountIn] overrides)) =
      .ok ((venues.filterMap (worth (gated x.storage q))).map toQuote) := by
  induction venues with
  | nil => rfl
  | cons v venues ih =>
      obtain ⟨data, asks⟩ := exists_asks faithful tokenIn tokenOut fits (some [v])
      have replied := rust_callRouter debug faithful simulates asks
      have quoted := wp_quoteVenueV1 (s := s) fixed v
      change match quoteVenueV1 x v tokenIn tokenOut amountIn s with
        | .ok (amountOut, venue) _ =>
            ∃ raw, Rust.Router.callRouter router debug Rust.Router.Abi.quoteVenue
              [.address v, .address tokenIn, .address tokenOut, .uint amountIn] overrides =
                .ok raw ∧
              Rust.Router.decodeValues router.client.codec "uint256,address".toList raw =
                .ok [.uint amountOut, .address venue]
        | .error _ _ =>
            ∃ message payload, Rust.Router.callRouter router debug Rust.Router.Abi.quoteVenue
              [.address v, .address tokenIn, .address tokenOut, .uint amountIn] overrides =
                .error (.revert message payload) at replied
      rw [List.map_cons]
      cases run : quoteVenueV1 x v tokenIn tokenOut amountIn s with
      | ok best s' =>
          obtain ⟨amountOut, venue⟩ := best
          obtain ⟨same, value⟩ := wp_ok quoted run
          rw [run] at replied
          obtain ⟨raw, called, decoded⟩ := replied
          simp only [called, Rust.Router.collectQuotes, decoded, ih, bind, Except.bind,
            Rust.Router.indexed, List.getElem?_cons_zero, Rust.Router.asU256]
          by_cases zero : amountOut = 0
          · have nothing : worth (gated x.storage q) v = none := by
              rw [worth, value, zero]
              rfl
            rw [if_pos zero, List.filterMap_cons_none nothing]
          · have listed : worth (gated x.storage q) v = some (amountOut, v) :=
              worth_eq_some.mpr ⟨rfl, value, Nat.pos_of_ne_zero zero⟩
            rw [if_neg zero, List.filterMap_cons_some listed]
            rfl
      | error e s' =>
          have nothing : worth (gated x.storage q) v = none := by
            rw [worth, wp_error quoted run]
            rfl
          rw [run] at replied
          obtain ⟨message, payload, called⟩ := replied
          rw [called, Rust.Router.collectQuotes, ih, List.filterMap_cons_none nothing]

/-- What Rust's `get_quotes` comes to. -/
theorem rust_getQuotes {D σ : Type}
    {router : PropAmmRouter D Rust.Router.CallOverrides Rust.OverridesSnapshot σ}
    (debug : Value → String) {order : Rust.HashOrder} {overrides : Rust.Router.CallOverrides}
    {before after : σ}
    {opts : QuoteOptions Rust.OverridesSnapshot σ} (faithful : router.client.codec.Faithful)
    (lists : router.client.Lists router.address x.storage .default)
    (resolved : Rust.Router.resolveOverrides router order opts before = .ok overrides after)
    (simulates : router.client.Simulates router.address x s overrides) (fits : UintFits amountIn)
    (fixed : FixedQuotes x tokenIn tokenOut amountIn q) :
    Rust.Router.getQuotesWith router debug order tokenIn tokenOut amountIn opts before =
      .ok ((ranked (gated x.storage q) (opts.venues.getD x.storage.getWhitelistedVenues)).map
        toQuote) after := by
  have collected := rust_collectQuotes debug faithful simulates fits fixed
    (opts.venues.getD x.storage.getWhitelistedVenues)
  unfold Rust.Router.getQuotesWith
  cases given : opts.venues with
  | some venues =>
      rw [given] at collected
      show (Rust.Router.resolveOverrides router order opts >>= _) before = _
      rw [bind_of_ok resolved]
      simp only [Option.getD_some] at collected ⊢
      rw [collected]
      show EStateM.Result.ok (sortQuotes _) after = _
      rw [sortQuotes_map]
      rfl
  | none =>
      rw [given] at collected
      rw [rust_getWhitelistedVenues debug faithful lists]
      show (Rust.Router.resolveOverrides router order opts >>= _) before = _
      rw [bind_of_ok resolved]
      simp only [Option.getD_none] at collected ⊢
      rw [collected]
      show EStateM.Result.ok (sortQuotes _) after = _
      rw [sortQuotes_map]
      rfl

section Each

variable {D σ O S : Type} {router : PropAmmRouter D O S σ} {completed : Completion}
  {quote : QuoteOptions S σ → SdkM σ Quote} {opts : QuoteOptions S σ} {snapshot : Option S}
  {before after : σ}

/-- Each quote is taken on the snapshot that was drawn, and draws none. -/
theorem quoteEach_eq {replies : Address → Except Error Quote}
    (drawn : router.resolveSnapshot opts before = .ok snapshot after)
    (replied : ∀ v, quote { opts with overrides := .resolved snapshot, venues := some [v] } after =
      lift (replies v) after) (venues : List Address) :
    router.quoteEach completed quote opts venues before =
      lift ((gather completed (venues.map fun v => orNone (replies v))).map rankQuotes) after := by
  have ones :
    ∀ v, (match quote { opts with overrides := .resolved snapshot, venues := some [v] } after with
      | .ok quote _ => Except.ok quote
      | .error e _ => .error e) = replies v := by
    intro v
    rw [replied v]
    unfold lift
    cases replies v <;> rfl
  refine (bind_of_ok drawn).trans ?_
  simp only [ones]

/-- Where every reply is the venue's gated quote, the quotes come ranked. -/
theorem quoteEach_ranked {replies : Address → Except Error Quote} {q : Address → Option Nat}
    (drawn : router.resolveSnapshot opts before = .ok snapshot after)
    (replied : ∀ v, quote { opts with overrides := .resolved snapshot, venues := some [v] } after =
      lift (replies v) after) (venues : List Address)
    (all : ∀ v ∈ venues, orNone (replies v) = .ok ((q v).map fun n => ⟨n, v⟩)) :
    router.quoteEach completed quote opts venues before = .ok ((ranked q venues).map toQuote)
      after := by
  have calls : (venues.map fun v => orNone (replies v)) =
      venues.map fun v => Except.ok ((q v).map fun n => (⟨n, v⟩ : Quote)) :=
    List.map_congr_left all
  have values : ((venues.map fun v => (Except.ok ((q v).map fun n => (⟨n, v⟩ : Quote)) :
      Except Error (Option Quote))).filterMap Except.toOption) = venues.map fun v =>
        (q v).map fun n => ⟨n, v⟩ := by
    rw [List.filterMap_map, ← List.filterMap_eq_map]
    rfl
  rw [quoteEach_eq drawn replied venues, calls, gather_ok, values]
  · show lift (Except.ok (rankQuotes _)) after = _
    rw [rankQuotes_eq]
    rfl
  · intro call member
    obtain ⟨v, _, rfl⟩ := List.mem_map.mp member
    exact ⟨_, rfl⟩

end Each

/-- The snapshot under resolved overrides, and that it resolves to them again. -/
theorem resolveWith_again {D σ O S : Type} {router : PropAmmRouter D O S σ} {noOverrides : O}
    {flatten : S → Except Error O} {opts : QuoteOptions S σ} {overrides : O} {before after : σ}
    (resolved : router.resolveWith noOverrides flatten opts before = .ok overrides after) :
    ∃ snapshot, router.resolveSnapshot opts before = .ok snapshot after ∧ ∀ venues,
      router.resolveWith noOverrides flatten { opts with overrides := .resolved snapshot, venues }
        after =
        .ok overrides after := by
  obtain ⟨snapshot, s₁, drawn, flattened⟩ := exists_of_bind_ok resolved
  cases snapshot with
  | none =>
      cases flattened
      exact ⟨none, drawn, fun _ => rfl⟩
  | some snapshot =>
      change lift (flatten snapshot) s₁ = _ at flattened
      have same : s₁ = after := by
        unfold lift at flattened
        cases shape : flatten snapshot with
        | ok value =>
            rw [shape] at flattened
            cases flattened
            rfl
        | error e =>
            rw [shape] at flattened
            cases flattened
      rw [same] at drawn flattened
      exact ⟨some snapshot, drawn, fun _ => flattened⟩

/-- What Python's `get_quotes` comes to; one spoiled revert takes the others along. -/
theorem python_getQuotes {D σ : Type} {lib : Python.Overrides.Library} (debug : Value → String)
    {router : PropAmmRouter D Python.Router.CallOverrides Python.Overrides.OverridesSnapshot σ}
    {overrides : Python.Router.CallOverrides} {before after : σ}
    {opts : QuoteOptions Python.Overrides.OverridesSnapshot σ} (completed : Completion)
    (faithful : router.client.codec.Faithful)
    (lists : router.client.Lists router.address x.storage .default)
    (resolved : Python.Router.resolveOverrides lib router opts before = .ok overrides after)
    (simulates : router.client.Simulates router.address x s overrides) (fits : UintFits amountIn)
    (fixed : FixedQuotes x tokenIn tokenOut amountIn q) {venues : List Address}
    (chosen : venues = if opts.venues.getD [] = [] then x.storage.getWhitelistedVenues
      else opts.venues.getD []) :
    let spoiled v := Spoiled router.client debug router.address overrides (some [v]) tokenIn
      tokenOut amountIn
    ((∀ v ∈ venues, ¬ spoiled v) →
      Python.Router.getQuotes lib debug router completed tokenIn tokenOut amountIn opts before =
        .ok ((ranked (gated x.storage q) venues).map toQuote) after) ∧
    ((∃ v ∈ venues, spoiled v) →
      ∃ e, Python.Router.getQuotes lib debug router completed tokenIn tokenOut amountIn
        opts before =
        .error (.abi e) after) := by
  intro spoiled
  obtain ⟨snapshot, drawn, again⟩ := resolveWith_again resolved
  have quoted : ∀ v, ∃ reply, Python.Router.quote lib debug router tokenIn tokenOut amountIn
      { opts with overrides := .resolved snapshot, venues := some [v] } after = lift reply after ∧
      (¬ spoiled v → Answered (asked (some [v]) tokenIn tokenOut amountIn) x s reply) ∧
      (spoiled v → ∃ e, reply = .error (.abi e)) := fun v =>
    python_quote faithful simulates fits
      { opts with overrides := .resolved snapshot, venues := some [v] } (by simp) (again (some [v]))
  choose replies replied clean dirty using quoted
  have whole : Python.Router.getQuotes lib debug router completed tokenIn tokenOut amountIn
      opts before = router.quoteEach completed
        (Python.Router.quote lib debug router tokenIn tokenOut amountIn) opts venues before := by
    unfold Python.Router.getQuotes
    rw [readWhitelistedVenues_ok faithful lists, chosen]
    match opts.venues with
    | none => rfl
    | some [] => rfl
    | some (_ :: _) => rfl
  rw [whole]
  constructor
  · intro all
    exact quoteEach_ranked drawn replied venues fun v member => answered_gated fixed
      (clean v (all v member))
  · rintro ⟨v, member, bad⟩
    have failures : ∀ e, .error e ∈ (venues.map fun v => orNone (replies v)) →
        ∃ text, e = .abi text := by
      intro e failed
      obtain ⟨u, _, shape⟩ := List.mem_map.mp failed
      by_cases other : spoiled u
      · obtain ⟨text, reply⟩ := dirty u other
        rw [reply] at shape
        cases shape
        exact ⟨text, rfl⟩
      · rw [answered_gated fixed (clean u other)] at shape
        cases shape
    obtain ⟨text, reply⟩ := dirty v bad
    have raised : ∃ e, .error e ∈ (venues.map fun v => orNone (replies v)) :=
      ⟨.abi text, List.mem_map.mpr ⟨v, member, by rw [reply]; rfl⟩⟩
    obtain ⟨e, first, text, rfl⟩ := gather_error completed failures raised
    refine ⟨text, ?_⟩
    rw [quoteEach_eq drawn replied venues, first]
    rfl

/-- What TypeScript's `getQuotes` comes to. -/
theorem typescript_getQuotes {D σ : Type} {lib : TypeScript.Overrides.Library}
    {router : PropAmmRouter D TypeScript.Router.CallOverrides TypeScript.Overrides.OverridesSnapshot
      σ}
    {overrides : TypeScript.Router.CallOverrides} {before after : σ}
    {opts : QuoteOptions TypeScript.Overrides.OverridesSnapshot σ} (completed : Completion)
    (faithful : router.client.codec.Faithful)
    (lists : router.client.Lists router.address x.storage .default)
    (resolved : TypeScript.Router.resolveOverrides lib router opts before = .ok overrides after)
    (simulates : router.client.Simulates router.address x s overrides) (fits : UintFits amountIn)
    (fixed : FixedQuotes x tokenIn tokenOut amountIn q) :
    TypeScript.Router.getQuotes lib router completed tokenIn tokenOut amountIn opts before =
      .ok ((ranked (gated x.storage q) (opts.venues.getD x.storage.getWhitelistedVenues)).map
        toQuote) after := by
  obtain ⟨snapshot, drawn, again⟩ := resolveWith_again resolved
  have quoted : ∀ v, ∃ reply, TypeScript.Router.quote lib router tokenIn tokenOut amountIn
      { opts with overrides := .resolved snapshot, venues := some [v] } after = lift reply after ∧
      Answered (asked (some [v]) tokenIn tokenOut amountIn) x s reply := fun v =>
    typescript_quote faithful simulates fits
      { opts with overrides := .resolved snapshot, venues := some [v] } (by simp) (again (some [v]))
  choose replies replied answered using quoted
  have whole : TypeScript.Router.getQuotes lib router completed tokenIn tokenOut amountIn
      opts before = router.quoteEach completed
        (TypeScript.Router.quote lib router tokenIn tokenOut amountIn) opts
        (opts.venues.getD x.storage.getWhitelistedVenues) before := by
    unfold TypeScript.Router.getQuotes
    rw [readWhitelistedVenues_ok faithful lists]
    cases opts.venues <;> rfl
  rw [whole]
  exact quoteEach_ranked drawn replied _ fun v _ => answered_gated fixed (answered v)

/-- The router selects the first of the ranking, or finds nothing to select. -/
theorem wp_quoteSelectedVenuesV1 (cfg : Configured x.storage)
    (fixed : FixedQuotes x tokenIn tokenOut amountIn q) (venues : List Address) :
    wp (quoteSelectedVenuesV1 x venues tokenIn tokenOut amountIn) s
      (fun best _ => (ranked (gated x.storage q) venues).head? = some best)
      (fun e _ => e = .noQuotesAvailable ∧ ranked (gated x.storage q) venues = []) := by
  simp only [quoteSelectedVenuesV1, pickBestVenueFrom, wp_bind]
  refine wp_mono (fixed.returns_pickBestVenueFromLoop venues (0, 0) s) ?_
    fun _ _ never => never.elim
  rintro best s' rfl
  rw [scan_eq_head]
  simp only [wp_require, wp_pure]
  cases left : ranked (gated x.storage q) venues with
  | nil => exact ⟨fun some => absurd rfl some, fun _ => ⟨trivial, rfl⟩⟩
  | cons first rest =>
      refine ⟨fun _ => rfl, fun zero => absurd ?_ zero⟩
      have listed : (first.1, first.2) ∈ ranked (gated x.storage q) venues :=
        left ▸ List.mem_cons_self
      have quoted := (mem_ranked.mp listed).2.1
      intro none
      change first.2 = 0 at none
      unfold gated at quoted
      split at quoted
      · rename_i venue
        rw [none] at venue
        rcases venue with whitelisted | fallback
        · exact cfg.venues whitelisted
        · exact cfg.router fallback.symm
      · cases quoted

end Ranked

/-! ## Agreement -/

/-- A node that reads the router's whitelist, and runs its quotes on `x`. -/
structure PropAmmRouter.Live {D O S σ : Type} (router : PropAmmRouter D O S σ)
    (noOverrides overrides : O) (x : Ctx) (s : ChainState) : Prop where
  faithful : router.client.codec.Faithful
  lists : router.client.Lists router.address x.storage noOverrides
  simulates : router.client.Simulates router.address x s overrides

/-- Where every venue's quote is fixed, the three SDKs draw one snapshot and list the venues the
    router prices, best first and ties as listed; Python only if no venue reverts with an
    error's name and other bytes behind it, which takes the whole list along. Whatever is
    dropped from the front, the router given the rest selects the first, or reverts if there
    is none. -/
theorem venue_quotes_ranked {x : Ctx} {s : ChainState} {tokenIn tokenOut : Address} {amountIn : Nat}
    {q : Address → Option Nat} (reachable : Reachable x.storage) (fits : UintFits amountIn)
    (fixed : FixedQuotes x tokenIn tokenOut amountIn q) (D σ : Type) (debug : Value → String)
    (completed : Completion) (before after : σ) :
    let quotes venues := (ranked (gated x.storage q) venues).map toQuote
    (∀ (router : PropAmmRouter D Rust.Router.CallOverrides Rust.OverridesSnapshot σ) order
      opts overrides, router.Live .default overrides x s →
      Rust.Router.resolveOverrides router order opts before = .ok overrides after →
      Rust.Router.getQuotesWith router debug order tokenIn tokenOut amountIn opts before =
        .ok (quotes (opts.venues.getD x.storage.getWhitelistedVenues)) after) ∧
    (∀ (lib : Python.Overrides.Library)
        (router : PropAmmRouter D Python.Router.CallOverrides Python.Overrides.OverridesSnapshot σ)
          opts overrides,
      router.Live .default overrides x s →
      Python.Router.resolveOverrides lib router opts before = .ok overrides after →
      let venues := if opts.venues.getD [] = [] then x.storage.getWhitelistedVenues
        else opts.venues.getD []
      let spoiled v := Spoiled router.client debug router.address overrides (some [v]) tokenIn
        tokenOut amountIn
      ((∀ v ∈ venues, ¬ spoiled v) →
        Python.Router.getQuotes lib debug router completed tokenIn tokenOut amountIn opts before =
          .ok (quotes venues) after) ∧
      ((∃ v ∈ venues, spoiled v) →
        ∃ e, Python.Router.getQuotes lib debug router completed tokenIn tokenOut amountIn
          opts before = .error (.abi e) after)) ∧
    (∀ (lib : TypeScript.Overrides.Library)
        (router : PropAmmRouter D TypeScript.Router.CallOverrides
          TypeScript.Overrides.OverridesSnapshot σ) opts overrides,
      router.Live .default overrides x s →
      TypeScript.Router.resolveOverrides lib router opts before = .ok overrides after →
      TypeScript.Router.getQuotes lib router completed tokenIn tokenOut amountIn opts before =
        .ok (quotes (opts.venues.getD x.storage.getWhitelistedVenues)) after) ∧
    (∀ venues,
      let list := ranked (gated x.storage q) venues
      (∀ n v, (n, v) ∈ list ↔ v ∈ venues ∧ gated x.storage q v = some n ∧ 0 < n) ∧
      list.Pairwise (fun a b => b.1 ≤ a.1) ∧
      ∀ n, 0 < n → (list.filter fun a => a.1 = n).map Prod.snd =
        venues.filter fun v => gated x.storage q v = some n) ∧
    ∀ venues k s',
      let left := (ranked (gated x.storage q) venues).drop k
      Returns (pickBestVenueFrom x (left.map Prod.snd) tokenIn tokenOut amountIn) s'
        (fun best _ => best = left.head?.getD (0, 0)) ∧
      wp (quoteSelectedVenuesV1 x (left.map Prod.snd) tokenIn tokenOut amountIn) s'
        (fun best _ => left.head? = some best) (fun e _ => e = .noQuotesAvailable ∧ left = []) := by
  refine ⟨?_, ?_, ?_, ?_, ?_⟩
  · intro router order opts overrides live resolved
    exact rust_getQuotes debug live.faithful live.lists resolved live.simulates fits fixed
  · intro lib router opts overrides live resolved venues
    exact python_getQuotes debug completed live.faithful live.lists resolved live.simulates
      fits fixed rfl
  · intro lib router opts overrides live resolved
    exact typescript_getQuotes completed live.faithful live.lists resolved live.simulates fits fixed
  · intro venues
    exact ⟨fun n v => mem_ranked, ranked_sorted venues, fun n priced => ranked_ties venues priced⟩
  · intro venues k s' left
    have again : ranked (gated x.storage q) (left.map Prod.snd) = left := ranked_drop venues k
    have selected := wp_quoteSelectedVenuesV1 (s := s') reachable.configured fixed
      (left.map Prod.snd)
    rw [again] at selected
    refine ⟨?_, selected⟩
    refine wp_mono (fixed.returns_pickBestVenueFromLoop _ (0, 0) s') ?_ fun _ _ never => never
    rintro best s₁ rfl
    rw [scan_eq_head, again]

/-- A node that runs what it is asked on `x`, whatever the overrides. -/
def Client.simulating {D O : Type} (codec : Codec D) (x : Ctx) (s : ChainState) : Client D O where
  codec := codec
  signer := none
  ethCall _ data _ := match codec.called data with
    | some (.quote call) => match call.run x s with
      | .ok (amountOut, venue) _ => .ok (codec.encodeReturned [.uint amountOut, .address venue])
      | .error _ _ => .error (.revert "execution reverted" none)
    | some .getWhitelistedVenues =>
        .ok (codec.encodeReturned [addressArray x.storage.getWhitelistedVenues])
    | _ => .error (.client "not a quote")
  simulateContract _ _ _ := .error (.client "not a quote")

theorem simulating_live {D O S σ : Type} {codec : Codec D} (faithful : codec.Faithful) (x : Ctx)
    (s : ChainState) (address : Address) (source : SdkM σ S) (noOverrides overrides : O) :
    (PropAmmRouter.mk address (Client.simulating codec x s) source).Live noOverrides
      overrides x s where
  faithful := faithful
  lists := by
    intro data called
    change codec.called data = _ at called
    simp only [Client.simulating, called]
  simulates := by
    constructor
    · intro data call amountOut venue s' called run
      change codec.called data = _ at called
      simp only [Client.simulating, called, run]
    · intro data call e s' called run
      change codec.called data = _ at called
      refine ⟨"execution reverted", none, ?_⟩
      simp only [Client.simulating, called, run]

def sampleRouter :
    PropAmmRouter (String × List Value) Rust.Router.CallOverrides Rust.OverridesSnapshot Nat where
  address := 0x50
  client := .simulating keccakCodec tiedCtx (.start (.funded 0))
  overrides := fun drawn => .ok .default (drawn + 1)

def sampleOrder : Rust.HashOrder :=
  ⟨Dict.inserted, fun _ => Dict.inserted, fun _ _ => Dict.inserted, Dict.inserted,
    fun _ => Dict.inserted⟩

def sampleQuoteOptions : QuoteOptions Rust.OverridesSnapshot Nat := ⟨.attached, true, none⟩

theorem tied_quotes : FixedQuotes tiedCtx 0x11 0x22 5 fun v =>
    if v = tiedCtx.storage.fallbackSwapRouter then tiedMocks.quoterOut 5
    else if v = tiedCtx.self then none else tiedMocks.quote v 5 := by
  refine tiedMocks.fixedQuotes (fun _ => rfl) tiedCtx rfl 0x11 0x22 5 ?_ ?_ (by decide)
  · intro v n quoted
    simp only [tiedMocks, Mocks.plain] at quoted
    split at quoted
    · cases quoted
      decide
    · cases quoted
  · intro n quoted
    cases quoted
    decide

/-- Two venues tie and the fallback, listed before them, quotes less; one snapshot is drawn. -/
theorem venue_quotes_ranked_sample : ∃ quotes : List (Nat × Address),
    Rust.Router.getQuotesWith sampleRouter (fun _ => "") sampleOrder 0x11 0x22 5
      sampleQuoteOptions 0 =
      .ok (quotes.map toQuote) 1 ∧ quotes = [(7, 0xA2), (7, 0xA3), (5, 0xFB)] := by
  have reachable : Reachable tiedCtx.storage := sampleStorage_reachable
  have fits : UintFits 5 := by decide
  have ranks := venue_quotes_ranked (s := .start (.funded 0)) reachable fits tied_quotes
    (String × List Value) Nat (fun _ => "") (fun calls => ⟨calls, .refl _⟩) 0 1
  have live := simulating_live (σ := Nat) (S := Rust.OverridesSnapshot) keccakCodec_faithful tiedCtx
    (.start (.funded 0)) 0x50 (fun drawn => .ok .default (drawn + 1)) Bindings.CallOverrides.default
    (Rust.Router.callOverrides sampleOrder false .default)
  refine ⟨_, ranks.1 sampleRouter sampleOrder sampleQuoteOptions _ live rfl, ?_⟩
  have priced : (sampleQuoteOptions.venues.getD tiedCtx.storage.getWhitelistedVenues).filterMap
      (worth (gated
      tiedCtx.storage fun v => if v = tiedCtx.storage.fallbackSwapRouter then tiedMocks.quoterOut 5
        else if v = tiedCtx.self then none else tiedMocks.quote v 5)) =
          [(5, 0xFB), (7, 0xA2), (7, 0xA3)] := by
    decide +kernel
  rw [ranked, priced]
  simp [List.mergeSort, noBetter]

end PropAMM.Bindings
