import TradingPlatform.Execution.PrivateConnectors
import TradingPlatform.Execution.Simulated

/-! # Submit adapters

The adapters an entry can be submitted through, each with what it gets from
outside the store: random tokens and instants, the executor's response, or the
exchange connectors.
-/

namespace TradingPlatform.Execution

open Storage Exchange

inductive SubmitAdapter where
  | simulated (mode : String) (token filledAt : Nat → String)
  | privateHttp (url : Option String) (response : Except String Dict) (isoNow : Nat → String)
  | privateConnectors (connectors : List (String × PrivateExchangeConnector))
  | privateStub

def SubmitAdapter.name : SubmitAdapter → String
  | .simulated mode _ _ => "simulated:" ++ mode
  | .privateHttp _ _ _ => "private_http"
  | .privateConnectors _ => "private_connectors"
  | .privateStub => "private_stub"

/-- A submit returns a result or raises what a connector raised; it lists the
calls it made to connectors. -/
def SubmitAdapter.submit {σ : Type} (P : StoreProtocol σ) (ctx : DecimalContext)
    (adapter : SubmitAdapter) (decision : SubmitDecision) (intent : OrderIntent) (auto : Bool)
    (s : σ) : ConnectorsSubmit σ :=
  let returned (run : ArbitrageSubmitResult × σ) : ConnectorsSubmit σ := ⟨.ok run.1, [], run.2⟩
  match adapter with
  | .simulated mode token filledAt =>
      returned (submitArbitrageOrders P token filledAt decision intent mode auto s)
  | .privateHttp url response isoNow =>
      returned (submitPrivateHttp P ctx isoNow url response intent auto s)
  | .privateConnectors connectors =>
      submitPrivateConnectors P ctx connectors decision intent auto s
  | .privateStub =>
      returned (submitFailureResult auto
        [("mode", .str "private_stub"),
        ("reason", .str "private execution adapter not implemented"),
          ("adapter_name", .str "private_stub")] [] [], s)

end TradingPlatform.Execution
