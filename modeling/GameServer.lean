import GameServer.Wire.Framing
import GameServer.Dbmw.Callbacks
import GameServer.Theory.Runs
import GameServer.Kernel.Simulation
import GameServer.Kernel.Completion
import GameServer.Kernel.Identity
import GameServer.Kernel.NicknameIndex
import GameServer.Kernel.Provenance
import GameServer.Kernel.Deliveries
import GameServer.Kernel.Refusal
import GameServer.Dbmw.Client
import GameServer.Dbmw.Inbound
import GameServer.Dbmw.Outbound
import GameServer.Dbmw.Heartbeat
import GameServer.Dbmw.Acks
import GameServer.Dbmw.Attempts
import GameServer.Dbmw.Accounting
import GameServer.Kernel.Bucket
import GameServer.Kernel.Reuse
import GameServer.Kernel.Bindings
import GameServer.Kernel.Veil
import GameServer.Kernel.Forgery
import GameServer.Kernel.Limiter
import GameServer.Kernel.Charges
import GameServer.Kernel.Pool
import GameServer.Kernel.Admission
import GameServer.Kernel.Zones
import GameServer.Kernel.Extraction
import GameServer.Wire.Draining
import GameServer.Wire.Resync
import GameServer.Dbmw.Secret
import GameServer.Dbmw.Echo
import GameServer.Dbmw.Timeouts
import GameServer.Kernel.Unread
import GameServer.Kernel.Blocking
import GameServer.Kernel.Replacement
import GameServer.Kernel.Exceptions
import GameServer.Kernel.Reads
import GameServer.Kernel.Keepalive
import GameServer.Dbmw.RequestIds
import GameServer.Kernel.Store
import GameServer.Kernel.Unauth
import GameServer.Kernel.Tokens
import GameServer.Kernel.Locking
import GameServer.Dbmw.Wiring
import GameServer.Kernel.Library
import GameServer.Kernel.Phrases
import GameServer.Kernel.Bounds
import GameServer.Kernel.Relays
import GameServer.Kernel.Inbox
