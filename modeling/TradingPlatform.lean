import TradingPlatform.Execution.HedgeBalance
import TradingPlatform.Execution.PrivateConnectors
import TradingPlatform.Execution.Simulated
import TradingPlatform.Foundation.Json
import TradingPlatform.Recovery.SoundClosure
import TradingPlatform.Recovery.TerminalOrders
import TradingPlatform.Recovery.TickCoverage
import TradingPlatform.Routes.OrderWrite
import TradingPlatform.Runtime.ExposedLegs
import TradingPlatform.Runtime.PairLock
import TradingPlatform.Strategy.Precedence
import TradingPlatform.Strategy.Selection
import TradingPlatform.Routes.AbsorbingTraces
import TradingPlatform.Routes.WrittenEvidence
import TradingPlatform.Routes.SingleUnwinds
import TradingPlatform.Storage.SqlRendering
import TradingPlatform.MarketData.RateLimits
import TradingPlatform.RedisClient.Pool
import TradingPlatform.MarketData.WebSocketFrames
import TradingPlatform.Runtime.PairLockLifecycle
import TradingPlatform.Runtime.StrategyTick
import TradingPlatform.MarketData.Targets
import TradingPlatform.Storage.PostgresInterleavings
import TradingPlatform.Routes.CancelCoverage
import TradingPlatform.Routes.FillRedelivery
import TradingPlatform.Routes.StrategyWrite
import TradingPlatform.Config.ApplyPolicy
import TradingPlatform.Storage.Listings
import TradingPlatform.Routes.FillAccounting
import TradingPlatform.MarketData.WebSocketHandshake
import TradingPlatform.MarketData.CachedOrderbook
import TradingPlatform.Strategy.SizingTolerance
import TradingPlatform.MarketData.TokenWaits
import TradingPlatform.Strategy.FetchScheduling
import TradingPlatform.Routes.PersistGuards
import TradingPlatform.Runtime.EntryGuard
import TradingPlatform.Routes.WriteGuard
import TradingPlatform.Runtime.RedisTexts
import TradingPlatform.Routes.EventStreams
import TradingPlatform.Routes.MarketPolls
import TradingPlatform.Storage.RunLifecycle
import TradingPlatform.Storage.ControlPlane
import TradingPlatform.Strategy.ObserverStatistics
