import ServiceBus.Continuation
import ServiceBus.Payload
import ServiceBus.ErrorCodes
import ServiceBus.Text.Quotation

/-
ServiceBus.Failure — everything that can go wrong while a message is mediated.

A failure is its cause, and `Failure.message` is the one place that words it.
Failures fall into classes: only dispatch failures may be handed to a fault
sequence (`Failure.isDispatch`), and a fatal failure ends the flow.
-/
namespace ServiceBus

/-- A place of a message that can hold a value. -/
inductive Slot where
  | property (name : String)
  | variable (name : String)
deriving Repr, DecidableEq, Inhabited

namespace Slot

/-- A place in running text. -/
def text : Slot → String
  | .property name => "Property(" ++ Text.quoted name ++ ")"
  | .variable name => "Variable(" ++ Text.quoted name ++ ")"

end Slot

/-- Why an expression has no value. -/
inductive EvaluationError where
  | unsupported (expression : String)
  | notFound (expression : String)
  | notBoolean (expression : String)
deriving Repr, DecidableEq, Inhabited

namespace EvaluationError

/-- The expression that has no value. -/
def expression : EvaluationError → String
  | unsupported e => e
  | notFound e => e
  | notBoolean e => e

/-- The text of an error. -/
def message : EvaluationError → String
  | unsupported e => "不支持的表达式: " ++ e
  | notFound e => "表达式未解析到值: " ++ e
  | notBoolean e => "表达式结果类型不匹配: " ++ e ++ " 期望 boolean"

end EvaluationError

/-- What is wrong with a configuration. -/
inductive ConfigurationFault where
  | stated (reason : String)
  | timeoutNotPositive
  | progressionBelowOne (factor : Float)
  | maximumBelowInitial (maximum initial : UInt64)
  | retryListsExclusive
  | blankSecurityKey
  | missingField (endpoint field : String)
  | missingAddress (endpoint : String)
  | missingKey (endpoint : String)
  | duplicateEndpoint (name : String)
  | indirectionTooDeep (key : String)
  | noTargets
  | badRootElement (name : String)
  | blankResultVariable
  | minimumAboveMaximum (minimum maximum : UInt32)
  | aggregationTimeoutNotPositive

namespace ConfigurationFault

/-- The text of a number. -/
def number (n : Nat) : String := String.ofList (Decimal.digits n)

/-- The text of a configuration fault. -/
def message : ConfigurationFault → String
  | stated reason => reason
  | timeoutNotPositive => "Endpoint timeout duration must be greater than 0"
  | progressionBelowOne factor =>
    "Suspend progression factor must be >= 1.0, got " ++ Decimal.plainText factor
  | maximumBelowInitial maximum initial =>
    "Suspend maximum duration " ++ number maximum.toNat ++ "ms is below the initial duration " ++
      number initial.toNat ++ "ms"
  | retryListsExclusive =>
    "retry_config accepts either disabled_error_codes or enabled_error_codes, not both"
  | blankSecurityKey => "Security policy key cannot be empty"
  | missingField endpoint field => "端点 " ++ endpoint ++ " 缺少字段 " ++ field
  | missingAddress endpoint => "端点 " ++ endpoint ++ " 缺少地址"
  | missingKey endpoint => "间接端点 " ++ endpoint ++ " 缺少 key"
  | duplicateEndpoint name => "端点名称重复: " ++ name
  | indirectionTooDeep key => "间接端点 " ++ key ++ " 引用层级过深或存在循环"
  | noTargets => "scatter-gather 至少需要一个分支序列"
  | badRootElement name => "XML 聚合需要合法的根元素名称: '" ++ name ++ "'"
  | blankResultVariable => "scatter-gather 结果变量名不能为空"
  | minimumAboveMaximum minimum maximum =>
    "min-messages (" ++ number minimum.toNat ++ ") 大于 max-messages (" ++
      number maximum.toNat ++ ")"
  | aggregationTimeoutNotPositive => "聚合超时必须大于0"

end ConfigurationFault

/-- Which rule of mediation was broken. -/
inductive InvariantFault where
  | stated (reason : String)
  /-- A call that waits for a reply has no frame to come back to. -/
  | noFrameForCall
  /-- A reply arrived on a message without frames. -/
  | noFrameToResume
  | foreignFrame (frame : Frame) (sequence : String)
  | aggregationOpen (correlation : String)
  | noBranchIndex (message : String)
deriving Repr, DecidableEq

namespace InvariantFault

/-- The text of a broken rule. -/
def message : InvariantFault → String
  | stated reason => reason
  | noFrameForCall => "Continuation Stack Empty! Cannot proceed with the call"
  | noFrameToResume => "Continuation Stack Empty! Cannot resume the mediation flow"
  | foreignFrame frame sequence => "续点帧 " ++ frame.text ++ " 不属于序列 " ++ sequence
  | aggregationOpen correlation => "聚合 " ++ correlation ++ " 尚未关闭"
  | noBranchIndex id => "scatter-gather 响应 " ++ id ++ " 缺少分支序号"

end InvariantFault

/-- Why an expression could not be used. -/
inductive ExpressionFault where
  | stated (reason : String)
  | evaluation (error : EvaluationError)
  | conversion (value : Value) (error : SchemaError)

namespace ExpressionFault

/-- The text of an expression fault. -/
def message : ExpressionFault → String
  | stated reason => reason
  | evaluation error => error.message
  | conversion value error => "无法转换表达式结果 " ++ value.compact ++ ": " ++ error.message

end ExpressionFault

/-- A failure without a class of its own. -/
inductive InternalFault where
  | stated (reason : String)
  | missingSource (slot : Slot)
  | aggregationInProgress (correlation : String)
deriving Repr, DecidableEq

namespace InternalFault

/-- The text of an internal fault. -/
def message : InternalFault → String
  | stated reason => reason
  | missingSource slot => "出站载荷来源不存在: " ++ slot.text
  | aggregationInProgress correlation => "关联 ID " ++ correlation ++ " 已有进行中的聚合"

end InternalFault

/-- Why mediation of a message did not succeed. -/
inductive Failure where
  | configuration (cause : ConfigurationFault)
  | dispatch (code : Int32) (message : String) (detail : Option String)
  | suspended (endpoint : String) (code : Int32) (remaining : Nat)
  | invariant (cause : InvariantFault)
  | expression (expression : String) (cause : ExpressionFault)
  | serialization (cause : SchemaError)
  | timeout (note : String)
  | unknownEndpoint (key : String)
  | internal (cause : InternalFault)

namespace Failure

/-- The text of a failure. -/
def message : Failure → String
  | configuration cause => "配置错误: " ++ cause.message
  | dispatch code message _ =>
    "调度失败 [" ++ String.ofList (ErrorCodes.codeText code) ++ "]: " ++ message
  | suspended endpoint _ remaining =>
    "端点已挂起: " ++ endpoint ++ " (剩余 " ++ String.ofList (Decimal.digits remaining) ++ "ms)"
  | invariant cause => "不变量被破坏: " ++ cause.message
  | expression e cause => "表达式求值失败: " ++ e ++ " - " ++ cause.message
  | serialization cause => "序列化错误: " ++ cause.message
  | timeout note => "操作超时: " ++ note
  | unknownEndpoint key => "端点未找到: " ++ key
  | internal cause => "内部错误: " ++ cause.message

/-- Broken rules and configuration faults end the flow. -/
def isFatal : Failure → Bool
  | invariant _ => true
  | configuration _ => true
  | _ => false

/-- Failures of a dispatch may be handed to the fault handlers. -/
def isDispatch : Failure → Bool
  | dispatch .. => true
  | suspended .. => true
  | timeout _ => true
  | _ => false

/-- Failures of the transport may be retried. -/
def isRetryable : Failure → Bool
  | dispatch .. => true
  | timeout _ => true
  | _ => false

/-- The code that classifies a failure. -/
def code? : Failure → Option Int32
  | dispatch code _ _ => some code
  | suspended _ code _ => some code
  | _ => none

/-- What the sender of the message is told. -/
def userMessage : Failure → String
  | dispatch _ message _ => message
  | suspended .. => "目标端点暂不可用，请稍后重试"
  | timeout _ => "操作超时，请稍后重试"
  | configuration _ => "中介配置有误"
  | _ => "系统繁忙，请稍后重试"

/-- An expression without value, as a failure. -/
def ofEvaluation (e : EvaluationError) : Failure := expression e.expression (.evaluation e)

end Failure

end ServiceBus
