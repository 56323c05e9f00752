import WebrtcFileSender.Client.Transfer

/-!
Contract: the block that `startSendingLoop` runs on the serial `fileQueue`.

Owns: one statement of the loop as a step on the client, with the loop's local
variables in its program point. Between two statements anything else may run, so
each statement reads the properties anew.

The watermarks, the wait limit, the retry limit and the error codes are the
source's.
-/

namespace WebrtcFileSender

namespace RTCClient

def kBufferedAmountHighWatermark : Nat := 512 * 1024

def kBufferedAmountLowWatermark : Nat := 128 * 1024

def maxBackpressureWaits : Nat := 200

def maxSendRetries : Nat := 120

def closedDuringSend : NSError := rtcError 32 "DataChannel closed during send"

def sendFailed : NSError := rtcError 30 "DataChannel send failed (backpressure timeout)"

def sendEndedEarly : NSError := rtcError 31 "Send ended early"

/-- `[self.sendHandle readDataUpToLength:self.chunkSize error:]`: a message to a
nil handle returns nil, which reads as an empty chunk. -/
def readChunk (client : RTCClient) (input : LoopInput) : Option (ReadHandle × Chunk) :=
  match client.sendHandle with
  | none => none
  | some handle =>
      if input.readError then none
      else
        let data := (handle.file.bytes.drop handle.offset).take
          (min input.readLength chunkSize)
        if data.length = 0 then none
        else some ({ handle with offset := handle.offset + data.length },
          ⟨data, handle.transfer⟩)

/-- The effect of one statement: the client, and the statement after it. The
block returns when there is none. -/
def loopStatement (client : RTCClient) (transfer : TransferId) (input : LoopInput) :
    LoopPoint → RTCClient × Option LoopPoint
  | .entry => (client, if client.sendHandle.isNone then none else some .whileTest)
  | .whileTest =>
      (client,
        if client.transferCancelled = false ∧ client.sendBytesSent < client.sendTotalBytes
        then some (.waitTest 0) else some .cancelledTest)
  | .waitTest iters =>
      (client,
        if client.transferCancelled = false ∧ client.isDataChannelOpen ∧
            kBufferedAmountHighWatermark < input.bufferedAmount ∧
            iters < maxBackpressureWaits
        then some (.waitBody iters) else some .openTest)
  | .waitBody iters =>
      (client,
        if input.bufferedAmount ≤ kBufferedAmountLowWatermark then some .openTest
        else some (.waitTest (iters + 1)))
  | .openTest =>
      (client,
        if client.isDataChannelOpen then some .read
        else some (.finish (some closedDuringSend)))
  | .read =>
      match client.readChunk input with
      | none => (client, some .cancelledTest)
      | some (handle, chunk) =>
          ({ client with sendHandle := some handle }, some (.retryTest chunk 0))
  | .retryTest chunk retries =>
      (client,
        if retries < maxSendRetries ∧ client.transferCancelled = false
        then some (.retryOpenTest chunk retries) else some (.okTest chunk false))
  | .retryOpenTest chunk retries =>
      (client,
        if client.isDataChannelOpen then some (.retrySend chunk retries)
        else some (.okTest chunk false))
  | .retrySend chunk retries =>
      if input.sendOk ∧ client.isDataChannelOpen then
        (client.sendData ⟨.binary chunk.data, some chunk.transfer⟩,
          some (.okTest chunk true))
      else (client, some (.retryTest chunk (retries + 1)))
  | .okTest chunk ok =>
      (client, if ok then some (.addBytes chunk) else some (.finish (some sendFailed)))
  | .addBytes chunk =>
      ({ client with
          sendBytesSent := u64 (client.sendBytesSent + chunk.data.length) },
        some .reportProgress)
  | .reportProgress =>
      (client.dispatchMain
          (.fileSendProgress ⟨client.sendBytesSent, client.sendTotalBytes⟩),
        some .whileTest)
  | .cancelledTest =>
      (client, if client.transferCancelled then none else some .completeTest)
  | .completeTest =>
      (client,
        if client.sendTotalBytes ≤ client.sendBytesSent then some .sendDone
        else some (.finish (some sendEndedEarly)))
  | .sendDone => (client.sendControlJSON .ftDone (some transfer), some (.finish none))
  | .finish error =>
      (client.cleanupTransferWithError error (some transfer) false, none)

/-- Run one statement of the loop at the head of the file queue. -/
def runLoop (client : RTCClient) (input : LoopInput) : Option RTCClient :=
  match client.fileQueue with
  | [] => none
  | loop :: rest =>
      let (client, point) := client.loopStatement loop.transfer input loop.point
      match point with
      | none => some { client with fileQueue := rest }
      | some point => some { client with fileQueue := { loop with point := point } :: rest }

end RTCClient

end WebrtcFileSender
