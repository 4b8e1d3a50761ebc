import KdfProtocol.BalanceCheck
import KdfProtocol.CancelWindow
import KdfProtocol.CashAddr
import KdfProtocol.DivisionPanics
import KdfProtocol.ElectrumRouting
import KdfProtocol.EvmDexFee
import KdfProtocol.FileLock
import KdfProtocol.HeaderChain
import KdfProtocol.LockTime
import KdfProtocol.LogsWindow
import KdfProtocol.MsgpackBounds
import KdfProtocol.NegotiationV2
import KdfProtocol.OrderWriteGate
import KdfProtocol.OrderbookAnswers
import KdfProtocol.OutboxCoalescing
import KdfProtocol.PendingReservations
import KdfProtocol.RecreatedSwaps
import KdfProtocol.RefundGate
import KdfProtocol.RequestSwaps
import KdfProtocol.RestartedReservationsV2
import KdfProtocol.ScriptRoundTrip
import KdfProtocol.SecretRevealV2
import KdfProtocol.SlpTransfer
import KdfProtocol.SpendPathsV2
import KdfProtocol.SpendSearchV2
import KdfProtocol.SpvVectors
import KdfProtocol.SwapPaymentsV2
import KdfProtocol.SwapRecovery
import KdfProtocol.SwapTimeLocks
import KdfProtocol.TradableMinimum
import KdfProtocol.TransactionOrderV2
import KdfProtocol.TrieDeltaHistory
import KdfProtocol.WatcherLock
import KdfProtocol.WithdrawnOrders
