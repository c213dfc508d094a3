import CodexBridge.Js.Number
import CodexBridge.Js.Value
import CodexBridge.Js.Json
import CodexBridge.Js.Stringify
import CodexBridge.Js.Utf8
import CodexBridge.Tool.Args
import CodexBridge.Tool.Events
import CodexBridge.Tool.Outcome
import CodexBridge.Tool.Execute
import CodexBridge.Auth.Jwt
import CodexBridge.Auth.Store
import CodexBridge.Auth.Refresh
import CodexBridge.Auth.Writeback
import CodexBridge.Auth.ReadOnly
import CodexBridge.Auth.AccountId
import CodexBridge.Tool.Settled
import CodexBridge.Tool.Versions
import CodexBridge.Tool.View
