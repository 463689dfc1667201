import ElevatorBank.Bank.Start
import ElevatorBank.Deployment
import ElevatorBank.Json.Parser
import ElevatorBank.Json.Printer
import ElevatorBank.Log.Setup
import ElevatorBank.Report
import ElevatorBank.Wire.Command
import ElevatorBank.Wire.Config
import ElevatorBank.Wire.Envelope
import ElevatorBank.Wire.Event
import ElevatorBank.Proofs.Car
import ElevatorBank.Proofs.Fleet
import ElevatorBank.Proofs.HallCalls
import ElevatorBank.Proofs.Ledger
import ElevatorBank.Proofs.Quiet
import ElevatorBank.Proofs.Travel
import ElevatorBank.Proofs.Service
import ElevatorBank.Proofs.Racing
import ElevatorBank.Proofs.Once
import ElevatorBank.Proofs.Kept
import ElevatorBank.Proofs.Rank
import ElevatorBank.Proofs.Rest
import ElevatorBank.Proofs.Passengers
import ElevatorBank.Proofs.Lasting
import ElevatorBank.Proofs.Reentry
import ElevatorBank.Proofs.Shape
import ElevatorBank.Proofs.Orderly
import ElevatorBank.Proofs.Itinerary
import ElevatorBank.Proofs.Undisturbed
import ElevatorBank.Proofs.AllOrNothing
import ElevatorBank.Proofs.QueuedPath
import ElevatorBank.Proofs.Desk
import ElevatorBank.Proofs.Accounts
import ElevatorBank.Proofs.Shutdown
import ElevatorBank.Proofs.Delivery
import ElevatorBank.Proofs.JsonText
import ElevatorBank.Proofs.WireReader
import ElevatorBank.Proofs.WireForm
import ElevatorBank.Proofs.Cheapest
import ElevatorBank.Proofs.CabinStops
import ElevatorBank.Proofs.Answers
import ElevatorBank.Proofs.Motion
import ElevatorBank.Proofs.Resolution
import ElevatorBank.Proofs.Modes
import ElevatorBank.Proofs.Pressed
import ElevatorBank.Proofs.Environment
import ElevatorBank.Proofs.Layering
import ElevatorBank.Proofs.StartFloors
import ElevatorBank.Controller
import ElevatorBank.Proofs.Controller
import ElevatorBank.Proofs.TakenBack
