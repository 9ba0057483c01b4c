import Mathlib.Tactic.Basic

/-! `ReconnectManager` of `reconnect.cpp`: exponential backoff with jitter, in the
32-bit arithmetic of the source. Every operation ends in `calculate_delay`, so the
cached delay is always that of the current retry count; the structure says so. -/
namespace RyuLdn.Reconnect

structure ReconnectConfig where
  initialDelayMs : UInt32
  maxDelayMs : UInt32
  multiplierPercent : UInt16
  jitterPercent : UInt8
  maxRetries : UInt16
  fastRetries : UInt8
  fastDelayMs : UInt32
  deriving DecidableEq, Repr

def ReconnectConfig.default : ReconnectConfig := ⟨1000, 30000, 200, 10, 0, 1, 200⟩

inductive RetryResult where
  | shouldRetry | maxRetriesReached
  deriving DecidableEq, Repr

/-- The loop of `calculate_delay`, with the turns it has left. -/
def ReconnectConfig.grow (config : ReconnectConfig) : Nat → UInt32 → UInt32
  | 0, delay => delay
  | turns + 1, delay =>
      let safeThreshold := config.maxDelayMs * 100 / config.multiplierPercent.toUInt32
      if delay ≥ safeThreshold then config.maxDelayMs
      else
        let next := delay * config.multiplierPercent.toUInt32 / 100
        if next > config.maxDelayMs then config.maxDelayMs else config.grow turns next

def ReconnectConfig.calculateDelay (config : ReconnectConfig) (retryCount : UInt32) : UInt32 :=
  if retryCount < config.fastRetries.toUInt32 then config.fastDelayMs
  else config.grow (retryCount - config.fastRetries.toUInt32).toNat config.initialDelayMs

structure ReconnectManager where
  config : ReconnectConfig
  retryCount : UInt32
  currentDelayMs : UInt32
  calculated : currentDelayMs = config.calculateDelay retryCount
  deriving DecidableEq

namespace ReconnectManager

def new (config : ReconnectConfig) : ReconnectManager := ⟨config, 0, config.calculateDelay 0, rfl⟩

def hash (seed : UInt32) : UInt32 :=
  let first := seed ^^^ (seed <<< 13)
  let second := first ^^^ (first >>> 17)
  second ^^^ (second <<< 5)

/-- The 64-bit product is divided with the truncation of the source's `/`. -/
def getNextDelayMsWithJitter (manager : ReconnectManager) (seed : UInt32) : UInt32 :=
  let jitter := manager.config.jitterPercent
  if jitter = 0 then manager.currentDelayMs
  else
    let jitterRange := 2 * jitter.toUInt32 + 1
    let jitterOffset : Int := (hash seed % jitterRange).toNat - (jitter.toNat : Int)
    let adjusted := ((manager.currentDelayMs.toNat : Int) * (100 + jitterOffset)).tdiv 100
    let positive := if adjusted < 1 then 1 else adjusted
    let capped := if positive > manager.config.maxDelayMs.toNat then
      (manager.config.maxDelayMs.toNat : Int) else positive
    UInt32.ofNat capped.toNat

def shouldRetry (manager : ReconnectManager) : RetryResult :=
  if manager.config.maxRetries = 0 then .shouldRetry
  else if manager.retryCount ≥ manager.config.maxRetries.toUInt32 then .maxRetriesReached
  else .shouldRetry

def recordFailure (manager : ReconnectManager) : ReconnectManager where
  config := manager.config
  retryCount :=
    if manager.retryCount < 0xFFFFFFFF then manager.retryCount + 1 else manager.retryCount
  currentDelayMs := _
  calculated := rfl

theorem recordFailure_retryCount {manager : ReconnectManager}
    (room : manager.retryCount < 0xFFFFFFFF) :
    manager.recordFailure.retryCount = manager.retryCount + 1 :=
  if_pos room

def reset (manager : ReconnectManager) : ReconnectManager := new manager.config

def setConfig (manager : ReconnectManager) (config : ReconnectConfig) : ReconnectManager :=
  ⟨config, manager.retryCount, config.calculateDelay manager.retryCount, rfl⟩

end ReconnectManager

end RyuLdn.Reconnect
