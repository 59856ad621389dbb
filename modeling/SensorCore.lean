import SensorCore.Lib.Transition
import SensorCore.Config.Model
import SensorCore.Clients.Manager
import SensorCore.Clients.Routing
import SensorCore.Core.Lifecycle
import SensorCore.Api.Controller
import SensorCore.Api.Stops
import SensorCore.Api.Stack
import SensorCore.Clients.Calls
import SensorCore.Core.Operations
import SensorCore.Api.Requests
import SensorCore.Api.Relay
import SensorCore.Api.Isolation
import SensorCore.Config.Loader
import SensorCore.Threads.Machine
import SensorCore.Threads.InFlight
import SensorCore.Threads.RunLoops
import SensorCore.Config.Addresses
import SensorCore.Api.Rollback
import SensorCore.Threads.Lifetime
import SensorCore.Lib.Sorting
import SensorCore.Network.Interfaces
import SensorCore.Api.Factory
import SensorCore.Config.Entries
import SensorCore.Lib.Potential
import SensorCore.Threads.Progress
import SensorCore.Threads.Prompt
import SensorCore.Threads.Delivery
import SensorCore.App.Process
import SensorCore.Threads.Single
import SensorCore.App.Exit
import SensorCore.App.Application
import SensorCore.Config.Grammar
import SensorCore.Api.Devices
import SensorCore.Threads.Linear
import SensorCore.Logger.Registry
import SensorCore.Network.Named
import SensorCore.Threads.Atomic
import SensorCore.Threads.Sequential
