import PumpfunSdk.Rust.Core
import PumpfunSdk.Rust.Text
import PumpfunSdk.Codec.Base64
import PumpfunSdk.Codec.Base58
import PumpfunSdk.Codec.Pubkey
import PumpfunSdk.Codec.Borsh
import PumpfunSdk.Common.LogsData
import PumpfunSdk.Common.LogsParser
import PumpfunSdk.Common.LogsFilters
import PumpfunSdk.Common.LogsFiltersSpan
import PumpfunSdk.Common.LogsEvents
import PumpfunSdk.Grpc
import PumpfunSdk.Grpc.Subscribe
import PumpfunSdk.Jito
import PumpfunSdk.Ipfs
import PumpfunSdk.Common.LogsSubscribe
import PumpfunSdk.Pumpfun.Common
import PumpfunSdk.Pumpfun.AccountCache
import PumpfunSdk.Pumpfun.Trade
import PumpfunSdk.Instruction
import PumpfunSdk.Pumpfun.WithTip
