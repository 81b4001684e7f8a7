import Xrpc.Support.Text

namespace Xrpc

open Support

/-- `XrpcController`. A pending cancel closure is known by its name only. -/
structure XrpcController where
  failed : Bool := false
  errorText : Bytes := []
  canceled : Bool := false
  cancelCallback : Option Nat := none
  deriving DecidableEq

namespace XrpcController

def setFailed (controller : XrpcController) (reason : Bytes) : XrpcController :=
  { controller with failed := true, errorText := reason }

/-- `StartCancel`, which runs a pending cancel closure. -/
def startCancel (controller : XrpcController) : XrpcController :=
  if controller.canceled then controller
  else { controller with canceled := true, cancelCallback := none }

def reset (controller : XrpcController) : XrpcController :=
  { controller with failed := false, errorText := [], canceled := false, cancelCallback := none }

/-- `NotifyOnCancel`, which runs the closure of a canceled controller at once. -/
def notifyOnCancel (controller : XrpcController) (callback : Option Nat) : XrpcController :=
  if controller.canceled && callback.isSome then { controller with cancelCallback := none }
  else { controller with cancelCallback := callback }

@[simp] theorem startCancel_failed (controller : XrpcController) :
    controller.startCancel.failed = controller.failed := by
  unfold startCancel
  split
  · rfl
  · rfl

@[simp] theorem setFailed_canceled (controller : XrpcController) (reason : Bytes) :
    (controller.setFailed reason).canceled = controller.canceled := rfl

end XrpcController

end Xrpc
